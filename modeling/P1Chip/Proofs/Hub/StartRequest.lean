import P1Chip.HubOperation
import P1Chip.Proofs.Masks

/-!
# Requests to start a cog

Three fields share the argument of the service that starts a cog: fourteen bits of the parameter,
fourteen bits of the program address, and four bits for the cog.  Each field is found in the argument
again, and whoever fills them in writes down the same argument.

* `StartRequest.toNat_encode` — an argument as the sum of its fields.
* `StartRequest.aligned` — what is left of a request in an argument.
* **`StartRequest.decode_encode`**, **`StartRequest.encode_decode`** — requests and arguments.
-/

namespace P1Chip

/-- The four bits that choose a cog: its number, or 8 for any free one. -/
def CogChoice.selection : CogChoice → UInt32
  | .anyFree => 8
  | .specific cog => .ofNat cog.val

lemma CogChoice.toNat_selection_specific (cog : Fin 8) :
    (specific cog).selection.toNat = cog.val :=
  UInt32.toNat_ofNat_of_lt' (Nat.lt_trans cog.isLt (by decide))

lemma CogChoice.selection_le (choice : CogChoice) : choice.selection.toNat ≤ 8 := by
  cases choice with
  | anyFree => exact Nat.le_refl 8
  | specific cog =>
    rw [toNat_selection_specific]
    exact Nat.le_of_lt cog.isLt

namespace StartRequest

/-- The address of a long in 16 bits. -/
lemma toNat_address (address : UInt32) :
    (address &&& 0xFFFC).toNat = address.toNat / 4 % 2 ^ 14 * 4 :=
  Word.toNat_field address 14 2 rfl

/-! ## From requests to arguments -/

/-- An argument is the sum of its fields. -/
lemma toNat_encode (request : StartRequest) :
    request.encode.toNat = request.parameter.toNat / 4 % 2 ^ 14 * 2 ^ 18
      + request.program.toNat / 4 % 2 ^ 14 * 2 ^ 4 + request.cog.selection.toNat := by
  have selection := request.cog.selection_le
  have parameter := toNat_address request.parameter
  have program := toNat_address request.program
  have high : ((request.parameter &&& 0xFFFC) <<< 16).toNat = _ :=
    Word.toNat_shiftLeft_of_fits (by decide) (by simp only [UInt32.reduceToNat]; omega)
  have middle : ((request.program &&& 0xFFFC) <<< 2).toNat = _ :=
    Word.toNat_shiftLeft_of_fits (by decide) (by simp only [UInt32.reduceToNat]; omega)
  simp only [UInt32.reduceToNat, parameter, program] at high middle
  show (_ ||| _ ||| request.cog.selection).toNat = _
  rw [Word.toNat_or_of_low _ _ 4, Word.toNat_or_of_low _ _ 18]
  · omega
  · omega
  · omega
  · rw [Word.toNat_or_of_low _ _ 18] <;> omega
  · omega

/-! ## From arguments to requests -/

lemma toNat_parameter (argument : UInt32) :
    (decode argument).parameter.toNat = argument.toNat / 2 ^ 18 * 4 := by
  have bound := argument.toNat_lt
  have field : (argument >>> 16).toNat = argument.toNat / 2 ^ 16 :=
    (UInt32.toNat_shiftRight ..).trans (Nat.shiftRight_eq_div_pow ..)
  rw [decode, toNat_address, field]
  omega

lemma toNat_program (argument : UInt32) :
    (decode argument).program.toNat = argument.toNat / 2 ^ 4 % 2 ^ 14 * 4 := by
  have field : (argument >>> 2).toNat = argument.toNat / 2 ^ 2 :=
    (UInt32.toNat_shiftRight ..).trans (Nat.shiftRight_eq_div_pow ..)
  rw [decode, toNat_address, field]
  omega

/-- Bit 3 asks for any free cog. -/
lemma asksAny_eq (argument : UInt32) :
    (argument &&& 8 != 0) = decide (8 ≤ argument.toNat % 16) := by
  rw [Word.hasBit_eq argument (show UInt32.toNat 8 = 2 ^ 3 from rfl),
    Nat.testBit_eq_decide_div_mod_eq, decide_eq_decide]
  omega

lemma cog_decode (argument : UInt32) :
    (decode argument).cog = if 8 ≤ argument.toNat % 16 then .anyFree
      else .specific (Word.lowThreeBits argument.toNat) := by
  rw [decode, asksAny_eq]
  simp only [decide_eq_true_eq]

/-- The number of the choice that is made by four bits. -/
lemma selection_decode (argument : UInt32) :
    (decode argument).cog.selection.toNat
      = if 8 ≤ argument.toNat % 16 then 8 else argument.toNat % 8 := by
  rw [cog_decode]
  split
  · rfl
  · exact CogChoice.toNat_selection_specific _

/-! ## There and back -/

/-- What is left of a request in an argument: of the addresses, those of longs in sixteen bits. -/
def aligned (request : StartRequest) : StartRequest :=
  { request with parameter := request.parameter &&& 0xFFFC, program := request.program &&& 0xFFFC }

/-- The addresses are those of longs, and have sixteen bits. -/
structure IsAligned (request : StartRequest) : Prop where
  parameter : request.parameter.toNat < 65536 ∧ request.parameter.toNat % 4 = 0
  program : request.program.toNat < 65536 ∧ request.program.toNat % 4 = 0

/-- Addresses of longs in sixteen bits are not changed. -/
lemma address_eq_self_iff (address : UInt32) :
    address &&& 0xFFFC = address ↔ address.toNat < 65536 ∧ address.toNat % 4 = 0 := by
  rw [← UInt32.toNat_inj, toNat_address]
  omega

lemma aligned_eq_self_iff (request : StartRequest) :
    request.aligned = request ↔ request.IsAligned := by
  obtain ⟨parameter, program, cog⟩ := request
  rw [aligned, StartRequest.mk.injEq, address_eq_self_iff, address_eq_self_iff]
  exact ⟨fun same => ⟨same.1, same.2.1⟩, fun same => ⟨same.1, same.2, rfl⟩⟩

/-- **A request is found in its argument.** -/
theorem decode_encode (request : StartRequest) : decode request.encode = request.aligned := by
  have sum := request.toNat_encode
  have selection := request.cog.selection_le
  have parameter : (decode request.encode).parameter = request.aligned.parameter := by
    apply UInt32.toNat_inj.mp
    rw [toNat_parameter, aligned, toNat_address]
    omega
  have program : (decode request.encode).program = request.aligned.program := by
    apply UInt32.toNat_inj.mp
    rw [toNat_program, aligned, toNat_address]
    omega
  have cog : (decode request.encode).cog = request.cog := by
    rw [cog_decode]
    cases chosen : request.cog with
    | anyFree =>
      have number : request.cog.selection.toNat = 8 := by rw [chosen]; rfl
      exact if_pos (by omega)
    | specific cog =>
      have low := cog.isLt
      have number : request.cog.selection.toNat = cog := by
        rw [chosen, CogChoice.toNat_selection_specific]
      have same : Word.lowThreeBits request.encode.toNat = cog :=
        Fin.ext (show request.encode.toNat % 8 = cog by omega)
      rw [if_neg (by omega), same]
  show StartRequest.mk (decode request.encode).parameter (decode request.encode).program
    (decode request.encode).cog = _
  rw [parameter, program, cog]
  rfl

/-- **An argument is made again of its request**, but if it asks for any free cog, a number of a
cog in it is lost. -/
theorem encode_decode (argument : UInt32) :
    (decode argument).encode
      = if argument &&& 8 != 0 then argument &&& 0xFFFFFFF8 else argument := by
  have bound := argument.toNat_lt
  have sum := (decode argument).toNat_encode
  rw [toNat_parameter, toNat_program, selection_decode] at sum
  have rounded : (argument &&& 0xFFFFFFF8).toNat = argument.toNat / 2 ^ 3 % 2 ^ 29 * 2 ^ 3 :=
    Word.toNat_field argument 29 3 rfl
  apply UInt32.toNat_inj.mp
  rw [sum, asksAny_eq]
  by_cases any : 8 ≤ argument.toNat % 16
  · simp only [any, decide_true, if_true, rounded]
    omega
  · simp only [any, decide_false, Bool.false_eq_true, if_false]
    omega

end StartRequest

end P1Chip
