import Mathlib.Data.List.Basic

/-!
# Bytes that arrive in packets

A reader takes an exact number of bytes off the packets, however many of them that
needs, or reads into a buffer, which yields the packets cut at the size of the buffer.
-/

namespace WaitAgent.Verified

variable {α : Type*}

/-- The first `n` bytes, and the packets that are left. -/
def takeBytes : Nat → List (List α) → List α × List (List α)
  | _, [] => ([], [])
  | n, packet :: packets =>
      if n ≤ packet.length then (packet.take n, packet.drop n :: packets)
      else
        let rest := takeBytes (n - packet.length) packets
        (packet ++ rest.1, rest.2)

theorem takeBytes_eq (n : Nat) (packets : List (List α)) :
    (takeBytes n packets).1 = packets.flatten.take n ∧
      (takeBytes n packets).2.flatten = packets.flatten.drop n := by
  induction packets generalizing n with
  | nil => simp [takeBytes]
  | cons packet packets ih =>
    rw [takeBytes, List.flatten_cons]
    split_ifs with hFits
    · simp [List.take_append_of_le_length hFits, List.drop_append_of_le_length hFits]
    · have hLength : packet.length ≤ n := by omega
      obtain ⟨hTaken, hLeft⟩ := ih (n - packet.length)
      rw [List.take_append, List.drop_append, List.take_of_length_le hLength,
        List.drop_of_length_le hLength, List.nil_append]
      exact ⟨congrArg (packet ++ ·) hTaken, hLeft⟩

/-- The pieces of a packet behind the bytes of an unfinished piece. -/
def cutFrom (size : Nat) (piece : List α) : List α → List (List α)
  | [] => if piece.isEmpty then [] else [piece]
  | byte :: bytes =>
      if piece.length + 1 < size then cutFrom size (piece ++ [byte]) bytes
      else (piece ++ [byte]) :: cutFrom size [] bytes

/-- What reads into a buffer of `size` bytes return, one after another. -/
def reads (size : Nat) (packets : List (List α)) : List (List α) :=
  packets.flatMap (cutFrom size [])

theorem flatten_cutFrom (size : Nat) (piece bytes : List α) :
    (cutFrom size piece bytes).flatten = piece ++ bytes := by
  induction bytes generalizing piece with
  | nil => cases piece <;> simp [cutFrom]
  | cons byte bytes ih =>
    rw [cutFrom]
    split_ifs
    · rw [ih, List.append_assoc, List.singleton_append]
    · rw [List.flatten_cons, ih, List.nil_append, List.append_assoc, List.singleton_append]

theorem flatten_reads (size : Nat) (packets : List (List α)) :
    (reads size packets).flatten = packets.flatten := by
  induction packets with
  | nil => rfl
  | cons packet packets ih =>
    have hCons : reads size (packet :: packets) =
        cutFrom size [] packet ++ reads size packets := rfl
    rw [hCons, List.flatten_append, flatten_cutFrom, ih, List.nil_append, List.flatten_cons]

end WaitAgent.Verified
