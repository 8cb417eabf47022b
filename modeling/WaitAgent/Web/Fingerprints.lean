import WaitAgent.Terminal.Ansi
import WaitAgent.Verified.HashMap
import WaitAgent.Verified.Words

/-!
# Fingerprints of devices

A device is known by a digest over its address, its user agent and four values its browser
reports, each with a line break after it.  Addresses and user agents have no line breaks;
the reported values come from a form and can have them.  With them a value can begin in
the place of one field and end in that of another, and two devices have one fingerprint.
-/

namespace WaitAgent.Web

open Verified
open Terminal (fromUtf8Lossy)

/-! ## Forms -/

def hexDigit (b : UInt8) : Option Nat :=
  let n := b.toNat
  if 48 ≤ n ∧ n ≤ 57 then some (n - 48)
  else if 97 ≤ n ∧ n ≤ 102 then some (n - 87)
  else if 65 ≤ n ∧ n ≤ 70 then some (n - 55)
  else none

/-- `u8::from_str_radix` of two bytes, which takes a plus sign. -/
def hexPair (x y : UInt8) : Option UInt8 := do
  let low ← hexDigit y
  if x = 0x2b then some (UInt8.ofNat low)
  else
    let high ← hexDigit x
    some (UInt8.ofNat (high * 16 + low))

def plusToBlank (b : UInt8) : UInt8 :=
  if b = 0x2b then 0x20 else b

/-- The loop of `percent_decode`; a percent sign that begins no byte is kept. -/
def percentDecodeBytes : List UInt8 → List UInt8
  | [] => []
  | [b] => [plusToBlank b]
  | [b, x] => [plusToBlank b, plusToBlank x]
  | b :: x :: y :: more =>
      if b = 0x25 then
        match hexPair x y with
        | some decoded => decoded :: percentDecodeBytes more
        | none => b :: percentDecodeBytes (x :: y :: more)
      else plusToBlank b :: percentDecodeBytes (x :: y :: more)

/-- `percent_decode` of the authentication routes. -/
def percentDecode (text : List Char) : String :=
  fromUtf8Lossy (percentDecodeBytes (utf8Bytes text))

/-- `parse_form`; of two fields with one name the later one counts. -/
def parseForm (body : List Char) : HashMap String String :=
  AList.collect ((body.splitOn '&').filterMap fun pair =>
    (splitOnce '=' pair).2.map fun value =>
      (percentDecode (splitOnce '=' pair).1, percentDecode value))

structure Probe where
  platform : String
  timezone : String
  language : String
  screen : String
deriving DecidableEq

/-- `Probe::from_fields`; absent values are empty. -/
def Probe.fromFields (platform timezone language screen : Option String) : Probe where
  platform := platform.getD ""
  timezone := timezone.getD ""
  language := language.getD ""
  screen := screen.getD ""

/-- `probe_from_form`. -/
def probeFromForm (form : HashMap String String) : Probe :=
  Probe.fromFields (form.lookup "platform") (form.lookup "timezone") (form.lookup "language")
    (form.lookup "screen")

/-! ## The digest -/

/-- `fingerprint::compute`, over the digest in hexadecimal digits. -/
def compute (sha256 : List UInt8 → String) (ip userAgent : String) (probe : Probe) : String :=
  sha256 ([ip, userAgent, probe.platform, probe.timezone, probe.language, probe.screen].flatMap
    fun field => utf8Bytes field.toList ++ [0x0a])

/-- The text of fields with a line break after each. -/
def joined (fields : List String) : List Char :=
  fields.flatMap fun field => field.toList ++ ['\n']

theorem utf8Bytes_joined (fields : List String) :
    utf8Bytes (joined fields) = fields.flatMap fun field => utf8Bytes field.toList ++ [0x0a] := by
  have hBreak : utf8Bytes ['\n'] = [0x0a] := by rfl
  simp only [utf8Bytes, joined, List.flatMap_assoc, List.flatMap_append] at hBreak ⊢
  rw [hBreak]

def NoBreak (text : String) : Prop :=
  '\n' ∉ text.toList

instance (text : String) : Decidable (NoBreak text) :=
  inferInstanceAs (Decidable (¬_))

/-- A field can be read off the text if its number of line breaks is known. -/
theorem joined_cons_inj {a b : String} {as bs : List String}
    (hBreaks : a.toList.count '\n' = b.toList.count '\n')
    (h : joined (a :: as) = joined (b :: bs)) : a = b ∧ joined as = joined bs := by
  simp only [joined, List.flatMap_cons, List.append_assoc, List.singleton_append] at h
  -- the longer of the two would have the line break behind the other one
  have hShort {l₁ l₂ more rest₁ rest₂ : List Char} (hLong : l₂ = l₁ ++ more)
      (hCount : l₁.count '\n' = l₂.count '\n') (hRest : '\n' :: rest₁ = more ++ '\n' :: rest₂) :
      more = [] := by
    cases more with
    | nil => rfl
    | cons c more =>
      rw [List.cons_append, List.cons.injEq] at hRest
      rw [hLong, ← hRest.1, List.count_append, List.count_cons_self] at hCount
      omega
  suffices hText : a.toList = b.toList by
    rw [hText] at h
    exact ⟨String.toList_injective hText, List.tail_eq_of_cons_eq (List.append_cancel_left h)⟩
  obtain ⟨more, hLong, hRest⟩ | ⟨more, hLong, hRest⟩ := List.append_eq_append_iff.mp h
  · simpa [hShort hLong hBreaks hRest] using hLong.symm
  · simpa [hShort hLong hBreaks.symm hRest] using hLong

def Probe.values (probe : Probe) : List String :=
  [probe.platform, probe.timezone, probe.language, probe.screen]

/-- The number of line breaks in each value. -/
def Probe.breaks (probe : Probe) : List Nat :=
  probe.values.map (·.toList.count '\n')

theorem Probe.eq_of_joined {p q : Probe} (hBreaks : p.breaks = q.breaks)
    (hJoined : joined p.values = joined q.values) : p = q := by
  obtain ⟨_, _, _, _⟩ := p
  obtain ⟨_, _, _, _⟩ := q
  simp only [breaks, values, List.map_cons, List.map_nil, List.cons.injEq] at hBreaks
  obtain ⟨hPlatform, hTimezone, hLanguage, hScreen, -⟩ := hBreaks
  obtain ⟨rfl, hJoined⟩ := joined_cons_inj hPlatform hJoined
  obtain ⟨rfl, hJoined⟩ := joined_cons_inj hTimezone hJoined
  obtain ⟨rfl, hJoined⟩ := joined_cons_inj hLanguage hJoined
  obtain ⟨rfl, -⟩ := joined_cons_inj hScreen hJoined
  rfl

theorem compute_eq_iff {sha256 : List UInt8 → String} (hSha : Function.Injective sha256)
    {ip ip' userAgent userAgent' : String} {p q : Probe} (hIp : NoBreak ip) (hIp' : NoBreak ip')
    (hAgent : NoBreak userAgent) (hAgent' : NoBreak userAgent') :
    compute sha256 ip userAgent p = compute sha256 ip' userAgent' q ↔
      ip = ip' ∧ userAgent = userAgent' ∧ joined p.values = joined q.values := by
  have hCompute : ∀ ip userAgent (probe : Probe), compute sha256 ip userAgent probe =
      sha256 (utf8Bytes (joined (ip :: userAgent :: probe.values))) := by
    intro ip userAgent probe
    rw [utf8Bytes_joined]
    rfl
  constructor
  · intro h
    rw [hCompute, hCompute] at h
    obtain ⟨hIps, hRest⟩ := joined_cons_inj
      (by rw [List.count_eq_zero.mpr hIp, List.count_eq_zero.mpr hIp'])
      (utf8Bytes_injective (hSha h))
    obtain ⟨hAgents, hValues⟩ := joined_cons_inj
      (by rw [List.count_eq_zero.mpr hAgent, List.count_eq_zero.mpr hAgent']) hRest
    exact ⟨hIps, hAgents, hValues⟩
  · rintro ⟨rfl, rfl, hValues⟩
    rw [hCompute, hCompute]
    simp only [joined, List.flatMap_cons] at hValues ⊢
    rw [hValues]

/-- Two devices with one fingerprint are one device exactly if their values, where they make
up one text with the same address and user agent, have the line breaks in the same places. -/
theorem compute_injective_iff (sha256 : List UInt8 → String) (hSha : Function.Injective sha256)
    (ip ip' userAgent userAgent' : String) (p q : Probe) (hIp : NoBreak ip) (hIp' : NoBreak ip')
    (hAgent : NoBreak userAgent) (hAgent' : NoBreak userAgent') :
    (compute sha256 ip userAgent p = compute sha256 ip' userAgent' q →
        ip = ip' ∧ userAgent = userAgent' ∧ p = q) ↔
      (ip = ip' → userAgent = userAgent' → joined p.values = joined q.values →
        p.breaks = q.breaks) := by
  rw [compute_eq_iff hSha hIp hIp' hAgent hAgent']
  constructor
  · intro h hIps hAgents hValues
    rw [(h ⟨hIps, hAgents, hValues⟩).2.2]
  · rintro h ⟨hIps, hAgents, hValues⟩
    exact ⟨hIps, hAgents, Probe.eq_of_joined (h hIps hAgents hValues) hValues⟩

/-- Bytes written as the characters of the same numbers. -/
def bytesAsText (bytes : List UInt8) : String :=
  String.ofList (bytes.map fun b => Char.ofNat b.toNat)

theorem bytesAsText_injective : Function.Injective bytesAsText := by
  have hByte : Function.Injective fun b : UInt8 => Char.ofNat b.toNat := by
    intro a b h
    have hNat := congrArg (fun c : Char => c.val.toNat) h
    have hValid (x : UInt8) : x.toNat < 0xD800 := Nat.lt_trans x.toNat_lt (by decide)
    simp only [toNat_val_ofNat (.inl (hValid _))] at hNat
    exact UInt8.toNat_inj.mp hNat
  exact fun a b h => List.map_injective_iff.mpr hByte (String.ofList_injective h)

/-- Two devices whose values have line breaks in different places are told apart. -/
theorem compute_injective_with_breaks :
    compute bytesAsText "10.0.0.7" "curl" ⟨"Linux", "UTC\n", "en", "800x600"⟩ ≠
      compute bytesAsText "10.0.0.7" "curl" ⟨"Linux", "UTC", "en\n", "800x600"⟩ := by
  have hIp : NoBreak "10.0.0.7" := by decide
  have hAgent : NoBreak "curl" := by decide
  intro hEq
  exact absurd ((compute_injective_iff bytesAsText bytesAsText_injective _ _ _ _ _ _ hIp hIp hAgent
    hAgent).mpr (fun _ _ => by decide) hEq).2.2 (by decide)

/-- A line break at the end of the platform, and one as the time zone: different probes,
one fingerprint with every digest. -/
theorem compute_collision :
    probeFromForm (parseForm "platform=x%0A".toList) = ⟨"x\n", "", "", ""⟩
      ∧ probeFromForm (parseForm "platform=x&timezone=%0A".toList) = ⟨"x", "\n", "", ""⟩
      ∧ ∀ sha256 ip userAgent,
        compute sha256 ip userAgent (probeFromForm (parseForm "platform=x%0A".toList))
          = compute sha256 ip userAgent
            (probeFromForm (parseForm "platform=x&timezone=%0A".toList)) := by
  have hPlatform : probeFromForm (parseForm "platform=x%0A".toList) = ⟨"x\n", "", "", ""⟩ := by
    decide
  have hTimezone : probeFromForm (parseForm "platform=x&timezone=%0A".toList)
      = ⟨"x", "\n", "", ""⟩ := by
    decide
  refine ⟨hPlatform, hTimezone, fun sha256 ip userAgent => ?_⟩
  rw [hPlatform, hTimezone, compute, compute, ← utf8Bytes_joined, ← utf8Bytes_joined]
  rfl

end WaitAgent.Web
