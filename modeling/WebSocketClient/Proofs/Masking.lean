import WebSocketClient.Mask

/-!
# Masking

Masking by words and masking octet by octet come to the same in either octet
order, and masking twice with one key gives the payload back.
-/

namespace WebSocketClient

namespace OctetOrder

theorem octets_word (order : OctetOrder) (a b c d : UInt8) :
    order.octets (order.word a b c d) = [a, b, c, d] := by
  cases order <;> simp only [octets, word, List.cons.injEq, and_true, ← UInt8.toBitVec_inj] <;>
    refine ⟨?_, ?_, ?_, ?_⟩
  all_goals
    -- Bit by bit: of the four octets of a word, a shift brings one into view.
    ext i hi
    have hsecond : ¬ (8 + i < 8) ∧ 8 + i < 16 ∧ 8 + i < 24 := by omega
    have hthird : ¬ (16 + i < 16) ∧ 16 + i < 24 := by omega
    simp (disch := omega) [BitVec.getLsbD_of_ge, hsecond, hthird]

theorem word_xor_word (order : OctetOrder) (a b c d a' b' c' d' : UInt8) :
    order.word a b c d ^^^ order.word a' b' c' d' =
      order.word (a ^^^ a') (b ^^^ b') (c ^^^ c') (d ^^^ d') := by
  apply UInt32.eq_of_toBitVec_eq
  ext i hi
  cases order <;> simp [word] <;> grind

end OctetOrder

namespace MaskKey

theorem octet_add_four (key : MaskKey) (index : Nat) : key.octet (index + 4) = key.octet index := by
  simp [octet]

theorem apply_four (key : MaskKey) (a b c d : UInt8) (rest : Bytes) :
    key.apply (a :: b :: c :: d :: rest) =
      [a ^^^ key.first, b ^^^ key.second, c ^^^ key.third, d ^^^ key.fourth] ++ key.apply rest := by
  simp only [apply, List.mapIdx_cons, octet_add_four]
  rfl

theorem applyByWords_eq_apply (order : OctetOrder) (key : MaskKey) (payload : Bytes) :
    key.applyByWords order payload = key.apply payload := by
  induction payload using applyByWords.induct with
  | case1 a b c d rest ih =>
      rw [applyByWords, word, OctetOrder.word_xor_word, OctetOrder.octets_word, apply_four, ih]
  | case2 tail hshort => rw [applyByWords.eq_2 order key tail hshort]

@[simp] theorem length_apply (key : MaskKey) (payload : Bytes) :
    (key.apply payload).length = payload.length :=
  List.length_mapIdx

@[simp] theorem apply_apply (key : MaskKey) (payload : Bytes) :
    key.apply (key.apply payload) = payload := by
  apply List.ext_getElem
  · simp
  · intro index _ _
    simp only [apply, List.getElem_mapIdx, UInt8.xor_assoc, UInt8.xor_self, UInt8.xor_zero]

end MaskKey

end WebSocketClient
