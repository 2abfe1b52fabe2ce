import Mathlib.Data.Fintype.Card
import Mathlib.Data.Fintype.EquivFin
import WebSocketClient.Proofs.RoundTrip

/-!
# Keys of frames in a row

The counter behind the keys goes on by an odd number, so it comes back only after all the
words there are, and mixing takes different words to different words.  So among as many
frames in a row as there are keys, each key is that of exactly one frame.
-/

namespace WebSocketClient

namespace MaskKeys

variable {word shift factor inverse : UInt32}

/-!
## Mixing loses nothing
-/

theorem bijective_of_injective {change : UInt32 -> UInt32} (hchange : Function.Injective change) :
    Function.Bijective change := by
  have hfinite : Finite UInt32 :=
    Finite.of_injective UInt32.toFin fun _ _ hsame => UInt32.toFin_inj.mp hsame
  exact Finite.injective_iff_bijective.mp hchange

theorem eq_zero_of_shiftRight_eq (hshift : 0 < shift.toNat % 32) (hword : word >>> shift = word) :
    word = 0 := by
  have hvalue : word.toNat / 2 ^ (shift.toNat % 32) = word.toNat := by
    rw [← Nat.shiftRight_eq_div_pow, ← UInt32.toNat_shiftRight, hword]
  have hpow : 1 < 2 ^ (shift.toNat % 32) := Nat.one_lt_two_pow (Nat.ne_of_gt hshift)
  rcases Nat.eq_zero_or_pos word.toNat with hzero | hpos
  · exact UInt32.toNat_inj.mp hzero
  · exact absurd hvalue (Nat.ne_of_lt (Nat.div_lt_self hpos hpow))

theorem xorShift_injective (hshift : 0 < shift.toNat % 32) :
    Function.Injective fun word : UInt32 => word ^^^ (word >>> shift) := by
  intro first second hsame
  simp only at hsame
  -- What two words with one image differ in would stay the same when it is shifted.
  have hdifference : (first ^^^ second) >>> shift = first ^^^ second := by
    have hnone := UInt32.xor_eq_zero_iff.mpr hsame
    rw [UInt32.shiftRight_xor, ← UInt32.xor_eq_zero_iff, ← hnone]
    ac_rfl
  exact UInt32.xor_eq_zero_iff.mp (eq_zero_of_shiftRight_eq hshift hdifference)

theorem mul_injective (hinverse : factor * inverse = 1) :
    Function.Injective fun word : UInt32 => word * factor := by
  intro first second hsame
  have hback := congrArg (· * inverse) hsame
  simpa only [UInt32.mul_assoc, hinverse, UInt32.mul_one] using hback

theorem mix_injective : Function.Injective mix := by
  have hfirst : Function.Injective fun word : UInt32 => (word ^^^ (word >>> 16)) * 0x85EBCA6B :=
    (mul_injective (show _ * 0xA5CB9243 = 1 by decide)).comp (xorShift_injective (by decide))
  have hsecond : Function.Injective fun word : UInt32 => (word ^^^ (word >>> 13)) * 0xC2B2AE35 :=
    (mul_injective (show _ * 0x7ED1B41D = 1 by decide)).comp (xorShift_injective (by decide))
  exact (xorShift_injective (by decide)).comp (hsecond.comp hfirst)

theorem step_injective : Function.Injective fun counter : UInt32 => counter + stride := by
  intro first second hsame
  exact (UInt32.add_left_inj stride).mp hsame

/-!
## Keys and words
-/

theorem keyOfWord_word (key : MaskKey) : keyOfWord (key.word .little) = key := by
  have hoctets := OctetOrder.octets_word .little key.first key.second key.third key.fourth
  rw [OctetOrder.octets] at hoctets
  injection hoctets with hfirst hoctets
  injection hoctets with hsecond hoctets
  injection hoctets with hthird hoctets
  injection hoctets with hfourth
  rw [keyOfWord, MaskKey.word, hfirst, hsecond, hthird, hfourth]

theorem keyOfWord_injective : Function.Injective keyOfWord := by
  intro first second hsame
  have hfirst := first.toNat_lt
  have hsecond := second.toNat_lt
  -- The octets of a word are the digits of its value.
  simp only [keyOfWord, MaskKey.mk.injEq, ← UInt8.toNat_inj, UInt32.toNat_toUInt8,
    UInt32.toNat_shiftRight, Nat.shiftRight_eq_div_pow, UInt32.reduceToNat, Nat.reduceMod,
    Nat.reducePow] at hsame
  apply UInt32.toNat_inj.mp
  omega

/-!
## The counter
-/

def keyAt (keys : MaskKeys) (index : Nat) : MaskKey :=
  keyOfWord (mix (keys.counter + UInt32.ofNat (index + 1) * stride))

theorem keyAt_zero (keys : MaskKeys) : keys.keyAt 0 = keys.next.1 := by
  rw [keyAt, next, Nat.zero_add, show UInt32.ofNat 1 = 1 by decide, UInt32.one_mul]

theorem keyAt_succ (keys : MaskKeys) (index : Nat) :
    keys.keyAt (index + 1) = keys.next.2.keyAt index := by
  rw [keyAt, keyAt, next, UInt32.ofNat_add (index + 1), UInt32.add_mul,
    show UInt32.ofNat 1 = 1 by decide, UInt32.one_mul, UInt32.add_comm _ stride,
    ← UInt32.add_assoc]

theorem take_eq_map_keyAt (keys : MaskKeys) (count : Nat) :
    keys.take count = (List.range count).map keys.keyAt := by
  induction count generalizing keys with
  | zero => rfl
  | succ count ih =>
      have hlater : keys.keyAt ∘ Nat.succ = keys.next.2.keyAt := funext keys.keyAt_succ
      rw [take, ih, List.range_succ_eq_map, List.map_cons, List.map_map, keyAt_zero, hlater]

/-!
## Windows
-/

theorem scatter_injective (keys : MaskKeys) :
    Function.Injective fun word : UInt32 => mix (keys.counter + word * stride) := by
  have hstride : Function.Injective fun word : UInt32 => word * stride :=
    mul_injective (show _ * 0x144CBC89 = 1 by decide)
  intro first second hsame
  exact hstride ((UInt32.add_right_inj keys.counter).mp (mix_injective hsame))

/-- Two keys are the same only if as many keys lie between them as there are, or a
multiple of that. -/
theorem keyAt_eq_iff (keys : MaskKeys) (first second : Nat) :
    keys.keyAt first = keys.keyAt second <-> first % 2 ^ 32 = second % 2 ^ 32 := by
  rw [keyAt, keyAt, keyOfWord_injective.eq_iff, keys.scatter_injective.eq_iff, ← UInt32.toNat_inj,
    UInt32.toNat_ofNat', UInt32.toNat_ofNat']
  omega

theorem exists_keyAt_eq (keys : MaskKeys) (start : Nat) (key : MaskKey) :
    exists index, start <= index ∧ index < start + 2 ^ 32 ∧ keys.keyAt index = key := by
  rcases (bijective_of_injective keys.scatter_injective).surjective (key.word .little) with
    ⟨word, hword⟩
  have hless := word.toNat_lt
  -- The first place in the window for which the counter has taken so many steps.
  have hindex : exists index, start <= index ∧ index < start + 2 ^ 32 ∧
      (index + 1) % 2 ^ 32 = word.toNat :=
    ⟨start + (word.toNat + 2 ^ 32 - (start + 1) % 2 ^ 32) % 2 ^ 32, by omega, by omega, by omega⟩
  rcases hindex with ⟨index, hstart, hend, hsteps⟩
  refine ⟨index, hstart, hend, ?_⟩
  have hcount : UInt32.ofNat (index + 1) = word := by
    rw [← UInt32.toNat_inj, UInt32.toNat_ofNat', hsteps]
  calc keys.keyAt index = keyOfWord (mix (keys.counter + word * stride)) := by rw [keyAt, hcount]
    _ = keyOfWord (key.word .little) := congrArg keyOfWord hword
    _ = key := keyOfWord_word key

end MaskKeys

namespace FrameWriter

/-- The keys of frames written one after another, each to the stream as it is then, and
whatever comes of its write. -/
def keysOf (writer : FrameWriter) : List (Sink × Frame) -> List (Option MaskKey)
  | [] => []
  | (sink, frame) :: later => writer.nextKey :: (writer.write sink frame).2.keysOf later

theorem keysOf_eq_map_take {writer : FrameWriter} (hmasks : writer.role.mustMask = true)
    (writes : List (Sink × Frame)) :
    writer.keysOf writes = (writer.keys.take writes.length).map some := by
  induction writes generalizing writer with
  | nil => rfl
  | cons write later ih =>
      rcases write with ⟨sink, frame⟩
      have hkeys : (writer.write sink frame).2.keys = writer.keys.next.2 := by
        simp only [FrameWriter.write, start, hmasks, if_true]
      rw [keysOf, ih ((writer.role_write sink frame).symm ▸ hmasks), hkeys, nextKey, if_pos hmasks,
        List.length_cons, MaskKeys.take, List.map_cons]

end FrameWriter

namespace MaskKeys

/-- The steps of the counter and the mixing are permutations of the words.  So of as many
frames in a row as there are keys no two have the same key, and each key is that of
exactly one.  These are the keys in the order in which they are made, and the writer of a
client masks each frame with the next one. -/
theorem keys_of_window (keys : MaskKeys) :
    (Function.Bijective fun counter : UInt32 => counter + stride) ∧ Function.Bijective mix ∧
      (forall earlier later, earlier < later -> later < earlier + 2 ^ 32 ->
        keys.keyAt earlier ≠ keys.keyAt later) ∧
      (forall (start : Nat) (key : MaskKey), ∃! index,
        start <= index ∧ index < start + 2 ^ 32 ∧ keys.keyAt index = key) ∧
      (forall count, keys.take count = (List.range count).map keys.keyAt) ∧
      (forall (output : Output) (writes : List (Sink × Frame)),
        FrameWriter.keysOf ⟨.client, keys, output⟩ writes =
          (keys.take writes.length).map some) ∧
      forall (writer : FrameWriter) (sink : Sink) (frame : Frame),
        (writer.write sink frame).1 = writer.output.write sink (frame.encode writer.nextKey) := by
  refine ⟨bijective_of_injective step_injective, bijective_of_injective mix_injective, ?_, ?_,
    keys.take_eq_map_keyAt, ?_, FrameWriter.progress_write⟩
  · intro earlier later hless hnear hsame
    rw [keyAt_eq_iff] at hsame
    omega
  · intro start key
    rcases keys.exists_keyAt_eq start key with ⟨index, hstart, hend, rfl⟩
    refine ⟨index, ⟨hstart, hend, rfl⟩, ?_⟩
    rintro other ⟨hstart', hend', hsame⟩
    rw [keyAt_eq_iff] at hsame
    omega
  · intro output writes
    exact FrameWriter.keysOf_eq_map_take rfl writes

/-- From the seed 7, the first key and the last one before the keys begin again differ, and
of as many frames as there are keys, from the sixth on, one is masked with zeros. -/
theorem keys_of_window_of_seven :
    (0 < 4294967295 ∧ 4294967295 < 0 + 2 ^ 32 ∧ keyAt ⟨7⟩ 0 ≠ keyAt ⟨7⟩ 4294967295) ∧
      ∃! index, 5 <= index ∧ index < 5 + 2 ^ 32 ∧ keyAt ⟨7⟩ index = ⟨0, 0, 0, 0⟩ := by
  rcases keys_of_window ⟨7⟩ with ⟨_, _, hapart, hone, _⟩
  exact ⟨⟨by decide, by decide, hapart 0 4294967295 (by decide) (by decide)⟩,
    hone 5 ⟨0, 0, 0, 0⟩⟩

end MaskKeys

end WebSocketClient
