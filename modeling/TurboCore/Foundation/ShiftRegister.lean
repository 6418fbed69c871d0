import Mathlib

/-!
# Reflected shift registers

The register behind a reflected cyclic redundancy check: it shifts towards its lowest bit
and xors a polynomial in whenever a one falls out. Shifting is linear, and injective when
the polynomial has its top bit. So the register after a message tells apart any two
messages that differ only in one window no longer than the register.
-/

namespace TurboCore.Foundation.ShiftRegister

variable {width : Nat}

/-- One shift. -/
def shift (poly register : BitVec width) : BitVec width :=
  (register >>> 1) ^^^ if register.getLsbD 0 then poly else 0

/-- Take in one bit of a message. -/
def feed (poly register : BitVec width) (bit : Bool) : BitVec width :=
  (register >>> 1) ^^^ if (register.getLsbD 0 ^^ bit) then poly else 0

/-- Take in a message, first bit first. -/
def feedAll (poly : BitVec width) (register : BitVec width) (bits : List Bool) : BitVec width :=
  bits.foldl (feed poly) register

/-- A window of a message as one value, first bit lowest. -/
def word (width : Nat) (bits : List Bool) : BitVec width :=
  (BitVec.ofBoolListLE bits).setWidth width

@[simp] theorem getLsbD_word (bits : List Bool) (i : Nat) :
    (word width bits).getLsbD i = (decide (i < width) && bits.getD i false) := by
  simp only [word, BitVec.getLsbD_setWidth, BitVec.getLsbD_ofBoolListLE]

@[simp] theorem getElem_word (bits : List Bool) {i : Nat} (inside : i < width) :
    (word width bits)[i] = bits.getD i false := by
  rw [← BitVec.getLsbD_eq_getElem, getLsbD_word, decide_eq_true inside, Bool.true_and]

/-! ## Shifting is linear and injective -/

variable (poly : BitVec width)

theorem shift_xor (left right : BitVec width) :
    shift poly (left ^^^ right) = shift poly left ^^^ shift poly right := by
  unfold shift
  rw [BitVec.getLsbD_xor, BitVec.ushiftRight_xor_distrib]
  cases left.getLsbD 0 <;> cases right.getLsbD 0 <;> simp only [Bool.xor_false, Bool.xor_true,
    Bool.not_false, Bool.not_true, if_true, if_false, Bool.false_eq_true]
  · simp
  · simp [BitVec.xor_assoc]
  · rw [show (0 : BitVec width) = .zero width from rfl, BitVec.zero_eq, BitVec.xor_zero]
    ac_rfl
  · calc left >>> 1 ^^^ right >>> 1 ^^^ 0
        = left >>> 1 ^^^ right >>> 1 ^^^ (poly ^^^ poly) := by rw [BitVec.xor_self]; rfl
      _ = left >>> 1 ^^^ poly ^^^ (right >>> 1 ^^^ poly) := by ac_rfl

theorem iterate_shift_xor (count : Nat) (left right : BitVec width) :
    (shift poly)^[count] (left ^^^ right) =
      (shift poly)^[count] left ^^^ (shift poly)^[count] right := by
  induction count generalizing left right with
  | zero => rfl
  | succ count inductionHypothesis =>
      simp only [Function.iterate_succ_apply, shift_xor, inductionHypothesis]

/-- As long as only zeros fall out the register moves down. -/
theorem iterate_shift_of_low_clear {count : Nat} {register : BitVec width}
    (clear : ∀ i < count, register.getLsbD i = false) :
    (shift poly)^[count] register = register >>> count := by
  induction count with
  | zero => simp
  | succ count inductionHypothesis =>
      have lowest : (register >>> count).getLsbD 0 = false := by
        simpa using clear count (Nat.lt_succ_self count)
      rw [Function.iterate_succ_apply',
        inductionHypothesis fun i below => clear i (Nat.lt_succ_of_lt below)]
      simp [shift, lowest, BitVec.shiftRight_add]

/-- Many shifts are those of the low bits, which fall out, and a move of the others: what a
table of the low bits' shifts rests on. -/
theorem iterate_shift_eq_low_xor (count : Nat) (register : BitVec width) :
    (shift poly)^[count] register =
      (shift poly)^[count] ((register.setWidth count).setWidth width) ^^^ (register >>> count) := by
  let low := (register.setWidth count).setWidth width
  let high := register ^^^ low
  have lowBit : ∀ i, low.getLsbD i = (decide (i < count) && register.getLsbD i) := by
    intro i
    by_cases inside : i < width
    · simp [low, inside]
    · simp [low, inside, BitVec.getLsbD_of_ge register i (Nat.not_lt.mp inside)]
  have clear : ∀ i < count, high.getLsbD i = false := by
    intro i below
    simp [high, lowBit, below]
  have moved : high >>> count = register >>> count := by
    apply BitVec.eq_of_getLsbD_eq
    intro i _
    simp [high, lowBit, BitVec.getLsbD_ushiftRight]
  have split : register = low ^^^ high := by
    rw [BitVec.xor_comm, BitVec.xor_assoc, BitVec.xor_self, BitVec.xor_zero]
  calc (shift poly)^[count] register
      = (shift poly)^[count] (low ^^^ high) := by rw [← split]
    _ = (shift poly)^[count] low ^^^ (register >>> count) := by
        rw [iterate_shift_xor, iterate_shift_of_low_clear poly clear, moved]

variable {poly}

/-- A polynomial with its top bit marks in the top bit whether a one fell out. -/
theorem getLsbD_top_shift (top : poly.getLsbD (width - 1) = true) (register : BitVec width) :
    (shift poly register).getLsbD (width - 1) = register.getLsbD 0 := by
  have above : (register >>> 1).getLsbD (width - 1) = false := by
    rw [BitVec.getLsbD_ushiftRight]
    exact BitVec.getLsbD_of_ge _ _ (by omega)
  unfold shift
  rw [BitVec.getLsbD_xor, above]
  cases register.getLsbD 0 <;> simp [top]

theorem shift_injective (top : poly.getLsbD (width - 1) = true) :
    Function.Injective (shift poly) := by
  intro left right same
  have lowest : left.getLsbD 0 = right.getLsbD 0 := by
    rw [← getLsbD_top_shift top left, ← getLsbD_top_shift top right, same]
  have moved : left >>> 1 = right >>> 1 := by
    unfold shift at same
    rw [lowest] at same
    exact (BitVec.xor_left_inj _).mp same
  apply BitVec.eq_of_getLsbD_eq
  intro i inside
  cases i with
  | zero => exact lowest
  | succ i =>
      have bit := congrArg (fun moved => moved.getLsbD i) moved
      simpa [BitVec.getLsbD_ushiftRight, Nat.add_comm 1 i] using bit

theorem shift_bijective (top : poly.getLsbD (width - 1) = true) :
    Function.Bijective (shift poly) :=
  Finite.injective_iff_bijective.mp (shift_injective top)

/-! ## A window of a message at once -/

variable (poly)

/-- A bit of the message counts as the lowest bit of the register. -/
theorem feed_eq_shift (register : BitVec width) (bit : Bool) :
    feed poly register bit = shift poly (register ^^^ word width [bit]) := by
  apply BitVec.eq_of_getLsbD_eq
  intro i inside
  have positive : 0 < width := by omega
  have lowest : (word width [bit]).getLsbD 0 = bit := by simp [positive]
  have above : (word width [bit] >>> 1).getLsbD i = false := by
    simp [BitVec.getLsbD_ushiftRight, Nat.add_comm 1 i]
  unfold feed shift
  rw [BitVec.getLsbD_xor (i := 0), lowest, BitVec.ushiftRight_xor_distrib]
  simp only [BitVec.getLsbD_xor, above, Bool.xor_false]

/-- The first bit of a window and the others, which still have to move down. -/
theorem word_cons (bit : Bool) (rest : List Bool) :
    word width (bit :: rest) = word width [bit] ^^^ (word width rest <<< 1) := by
  apply BitVec.eq_of_getLsbD_eq
  intro i inside
  cases i with
  | zero => simp [inside]
  | succ i =>
      have below : i < width := by omega
      simp [below]

/-- The others move down to where they count. -/
theorem shift_word_shiftLeft {bits : List Bool} (short : bits.length < width) :
    shift poly (word width bits <<< 1) = word width bits := by
  have lowest : (word width bits <<< 1).getLsbD 0 = false := by simp
  unfold shift
  rw [lowest]
  apply BitVec.eq_of_getLsbD_eq
  intro i inside
  by_cases last : 1 + i < width
  · simp [last, inside]
  · have beyond : bits.length ≤ i := by omega
    simp [BitVec.getLsbD_ushiftRight, last, beyond]

/-- A window that fits into the register is taken in at once. -/
theorem feedAll_eq_iterate {bits : List Bool} (fits : bits.length ≤ width)
    (register : BitVec width) :
    feedAll poly register bits = (shift poly)^[bits.length] (register ^^^ word width bits) := by
  induction bits generalizing register with
  | nil =>
      have nothing : word width [] = BitVec.zero width := by
        apply BitVec.eq_of_getLsbD_eq
        simp
      simp [feedAll, nothing]
  | cons bit rest inductionHypothesis =>
      have short : rest.length < width := fits
      calc feedAll poly register (bit :: rest)
          = feedAll poly (feed poly register bit) rest := rfl
        _ = (shift poly)^[rest.length] (feed poly register bit ^^^ word width rest) :=
            inductionHypothesis short.le _
        _ = (shift poly)^[rest.length] (shift poly (register ^^^ word width (bit :: rest))) := by
            rw [word_cons, ← BitVec.xor_assoc, shift_xor, shift_word_shiftLeft poly short,
              feed_eq_shift]
        _ = (shift poly)^[(bit :: rest).length] (register ^^^ word width (bit :: rest)) := rfl

theorem feedAll_append (register : BitVec width) (first second : List Bool) :
    feedAll poly register (first ++ second) = feedAll poly (feedAll poly register first) second :=
  List.foldl_append

/-! ## What a message leaves in the register -/

variable {poly}

/-- The same message keeps different registers apart. -/
theorem feedAll_injective (top : poly.getLsbD (width - 1) = true) (bits : List Bool) :
    Function.Injective fun register => feedAll poly register bits := by
  induction bits with
  | nil => exact Function.injective_id
  | cons bit rest inductionHypothesis =>
      have one : Function.Injective fun register => feed poly register bit := by
        intro left right same
        simp only [feed_eq_shift] at same
        exact (BitVec.xor_left_inj _).mp (shift_injective top same)
      exact inductionHypothesis.comp one

theorem word_injective {left right : List Bool} (lengths : left.length = right.length)
    (fits : left.length ≤ width) (same : word width left = word width right) : left = right := by
  apply List.ext_getElem lengths
  intro i inLeft inRight
  have bit := congrArg (fun value => value.getLsbD i) same
  have inside : i < width := by omega
  simpa [inside, inLeft, inRight] using bit

/-- Two messages that differ in one window no longer than the register leave different
registers, whatever stands before and behind the window. -/
theorem feedAll_ne_of_window (top : poly.getLsbD (width - 1) = true) (register : BitVec width)
    (before behind : List Bool) {window changed : List Bool}
    (lengths : window.length = changed.length) (fits : window.length ≤ width)
    (different : window ≠ changed) :
    feedAll poly register (before ++ window ++ behind) ≠
      feedAll poly register (before ++ changed ++ behind) := by
  intro same
  simp only [feedAll_append] at same
  have atWindow := feedAll_injective top behind same
  have changedFits : changed.length ≤ width := lengths ▸ fits
  generalize feedAll poly register before = atStart at atWindow
  rw [feedAll_eq_iterate poly fits, feedAll_eq_iterate poly changedFits, ← lengths] at atWindow
  have words := (shift_injective top).iterate window.length atWindow
  exact different (word_injective lengths fits ((BitVec.xor_right_inj _).mp words))

/-- A window as long as the register can bring it to every value. -/
theorem exists_feedAll_eq (top : poly.getLsbD (width - 1) = true)
    (register target : BitVec width) :
    ∃ bits : List Bool, bits.length = width ∧ feedAll poly register bits = target := by
  obtain ⟨source, reached⟩ := (shift_bijective top).surjective.iterate width target
  let bits := (List.range width).map fun i => (register ^^^ source).getLsbD i
  have length : bits.length = width := by simp [bits]
  have value : word width bits = register ^^^ source := by
    apply BitVec.eq_of_getLsbD_eq
    intro i inside
    simp [bits, inside]
  refine ⟨bits, length, ?_⟩
  rw [feedAll_eq_iterate poly length.le, length, value, ← BitVec.xor_assoc, BitVec.xor_self,
    BitVec.zero_xor, reached]

end TurboCore.Foundation.ShiftRegister
