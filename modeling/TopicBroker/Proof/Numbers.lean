import TopicBroker.Lib.Powers
import TopicBroker.Model.Server

/-!
# The numbers of a datagram

A numeric payload carries a sign byte, a magnitude of 32 bits and, for a FLOAT,
the number of digits behind the point. The parser converts the magnitude to an
`int32_t` and computes the power of ten in 32 bits, and neither has room for
all that the payload can say.
-/

namespace TopicBroker

/-! ## The power of ten -/

theorem odd_byte_iff (exp : UInt8) : exp &&& 1 ≠ 0 ↔ exp.toNat % 2 = 1 := by
  rw [Ne, ← UInt8.toNat_inj, UInt8.toNat_and, UInt8.toNat_one, Nat.and_one_is_mod, UInt8.toNat_zero]
  omega

theorem halved_toNat (exp : UInt8) : (exp >>> 1).toNat = exp.toNat / 2 := by
  simp [Nat.shiftRight_eq_div_pow]

/-- The loop of `ipow` goes through the bits of the exponent. -/
theorem ipowLoop_powLoop (rounds : Nat) (base : UInt32) (exp : UInt8) (baseToExp : Int32) :
    (ipowLoop rounds base exp baseToExp).toUInt32 =
      powLoop rounds base exp.toNat baseToExp.toUInt32 := by
  induction rounds generalizing base exp baseToExp with
  | zero => rfl
  | succ rounds ih =>
      have ended : exp ≠ 0 ↔ exp.toNat ≠ 0 := UInt8.toNat_inj.ne.symm
      rw [ipowLoop, powLoop, ← halved_toNat]
      simp only [← ended, ← odd_byte_iff]
      split
      · rw [ih]
        split <;> rfl
      · rfl

/-- `ipow` computes the power modulo `2 ^ 32`. -/
theorem ipow_toNat (base : UInt32) (exp : UInt8) :
    (ipow base exp).toNat = base.toNat ^ exp.toNat % 2 ^ 32 := by
  have product : ∀ x y : UInt32,
      ((x * y).toNat : ZMod (2 ^ 32)) = (x.toNat : ZMod (2 ^ 32)) * y.toNat := by
    intro x y
    rw [UInt32.toNat_mul, ZMod.natCast_mod, Nat.cast_mul]
  have power : ((ipow base exp).toNat : ZMod (2 ^ 32)) = (base.toNat ^ exp.toNat : Nat) := by
    calc ((ipow base exp).toNat : ZMod (2 ^ 32))
        = (powLoop 8 base exp.toNat 1).toNat := by rw [ipow, ipowLoop_powLoop]; rfl
      _ = powLoop 8 (base.toNat : ZMod (2 ^ 32)) exp.toNat (1 : UInt32).toNat :=
          map_powLoop (f := fun x : UInt32 => (x.toNat : ZMod (2 ^ 32))) product _ _ _ _
      _ = (base.toNat ^ exp.toNat : Nat) := by
          rw [powLoop_eq exp.toNat_lt, UInt32.toNat_one, Nat.cast_one, one_mul, Nat.cast_pow]
  rw [← Nat.mod_eq_of_lt (ipow base exp).toNat_lt]
  exact (ZMod.natCast_eq_natCast_iff' _ _ _).mp power

/-- The loop ends by itself, after a round for each bit of the exponent. -/
theorem ipowWhile_exits (base : UInt32) (exp : UInt8) (baseToExp : Int32) :
    ∃ passed last, ipowWhile.Exits ⟨base, exp, baseToExp⟩ passed last ∧ passed.length ≤ 8 := by
  refine Loop.exits_within (fun rounds vars => vars.exp.toNat < 2 ^ rounds) ?_ ?_ exp.toNat_lt
  · intro vars below goes
    exact goes (UInt8.toNat_inj.mp (Nat.lt_one_iff.mp below))
  · intro rounds vars below _
    change (vars.exp >>> 1).toNat < 2 ^ rounds
    rw [halved_toNat]
    rw [Nat.pow_succ] at below
    omega

section Squares

variable {base : UInt32} {exp : UInt8} {baseToExp : Int32} {passed : List IpowVars}
  {last : IpowVars}

theorem square_toNat (base : UInt32) (count : Nat) :
    (base * base).toNat ^ 2 ^ count % 2 ^ 32 = base.toNat ^ 2 ^ (count + 1) % 2 ^ 32 := by
  rw [UInt32.toNat_mul, ← Nat.pow_mod, ← Nat.pow_two, ← Nat.pow_mul, ← Nat.pow_succ']

/-- The base of a round has been squared once for each round before it. -/
theorem ipowWhile_base (exits : ipowWhile.Exits ⟨base, exp, baseToExp⟩ passed last) {count : Nat}
    {vars : IpowVars} (here : passed[count]? = some vars) :
    2 ^ count ≤ exp.toNat ∧ vars.base.toNat = base.toNat ^ 2 ^ count % 2 ^ 32 := by
  induction count generalizing base exp baseToExp passed with
  | zero =>
      cases exits with
      | leave _ ended => cases here
      | round _ goes rest =>
          cases here
          refine ⟨Nat.pos_of_ne_zero fun zero => goes (UInt8.toNat_inj.mp zero), ?_⟩
          rw [Nat.pow_zero, Nat.pow_one, Nat.mod_eq_of_lt base.toNat_lt]
  | succ count ih =>
      cases exits with
      | leave _ ended => cases here
      | round _ goes rest =>
          obtain ⟨within, squared⟩ := ih rest here
          rw [halved_toNat] at within
          dsimp only at within
          rw [Nat.pow_succ]
          exact ⟨by omega, squared.trans (square_toNat base count)⟩

/-- What the loop leaves behind has been squared once for each round. -/
theorem ipowWhile_last (exits : ipowWhile.Exits ⟨base, exp, baseToExp⟩ passed last) :
    exp.toNat < 2 ^ passed.length ∧ last.base.toNat = base.toNat ^ 2 ^ passed.length % 2 ^ 32 := by
  induction passed generalizing base exp baseToExp with
  | nil =>
      cases exits with
      | leave _ ended =>
          refine ⟨Nat.lt_one_iff.mpr (UInt8.toNat_inj.mpr (not_not.mp ended)), ?_⟩
          rw [List.length_nil, Nat.pow_zero, Nat.pow_one, Nat.mod_eq_of_lt base.toNat_lt]
  | cons vars passed ih =>
      cases exits with
      | round _ goes rest =>
          obtain ⟨below, squared⟩ := ih rest
          rw [halved_toNat] at below
          dsimp only at below
          rw [List.length_cons]
          refine ⟨?_, squared.trans (square_toNat base passed.length)⟩
          rw [Nat.pow_succ]
          omega

end Squares

/-- The loop of `ipow` ends, and what is returned is the power modulo `2 ^ 32`,
hence the power itself where it has room. -/
structure PowerComputed (base : UInt32) (exp : UInt8) : Prop where
  ends : ∃ passed last, ipowWhile.Exits ⟨base, exp, 1⟩ passed last ∧ passed.length ≤ 8 ∧
    ipow base exp = last.baseToExp.toUInt32
  modulo : (ipow base exp).toNat = base.toNat ^ exp.toNat % 2 ^ 32
  exact : base.toNat ^ exp.toNat < 2 ^ 32 → (ipow base exp).toNat = base.toNat ^ exp.toNat

/-- `ipow` is the power, for every base and every exponent. -/
theorem ipow_computes (base : UInt32) (exp : UInt8) : PowerComputed base exp := by
  refine ⟨?_, ipow_toNat base exp, ?_⟩
  · obtain ⟨passed, last, exits, short⟩ := ipowWhile_exits base exp 1
    refine ⟨passed, last, exits, short, ?_⟩
    rw [ipow, ipowLoop_cutOff, exits.cutOff short]
  · intro fits
    rw [ipow_toNat, Nat.mod_eq_of_lt fits]

/-! ## Payloads -/

/-- The four bytes of a magnitude, the highest first. -/
def htonl (value : UInt32) : Bytes :=
  [(value.toNat / 2 ^ 24).toUInt8, (value.toNat / 2 ^ 16).toUInt8, (value.toNat / 2 ^ 8).toUInt8,
    value.toNat.toUInt8]

theorem ntohl_htonl (value : UInt32) (rest : Bytes) : ntohl (htonl value ++ rest) = value := by
  have small := value.toNat_lt
  have number : bigEndian (htonl value) = value.toNat := by
    simp only [bigEndian, htonl, List.foldl_cons, List.foldl_nil, Nat.toUInt8_eq,
      UInt8.toNat_ofNat']
    omega
  change (bigEndian (htonl value)).toUInt32 = value
  rw [number]
  exact UInt32.ofNat_toNat

/-- The bytes behind the type byte of an INT; `rest` is what stands behind them. -/
def intPayload (sign : UInt8) (magnitude : UInt32) (rest : Bytes) : Bytes :=
  sign :: (htonl magnitude ++ rest)

/-- The bytes behind the type byte of a FLOAT. -/
def floatPayload (sign : UInt8) (magnitude : UInt32) (exponent : UInt8) (rest : Bytes) : Bytes :=
  sign :: (htonl magnitude ++ exponent :: rest)

/-! ## INT -/

theorem toInt32_toInt (value : UInt32) :
    value.toInt32.toInt =
      if value.toNat < 2 ^ 31 then (value.toNat : Int) else value.toNat - 2 ^ 32 := by
  change value.toBitVec.toInt = _
  rw [BitVec.toInt_eq_toNat_cond]
  change (if 2 * value.toNat < 2 ^ 32 then (value.toNat : Int) else value.toNat - 2 ^ 32) = _
  split <;> split <;> omega

/-- What a sign byte and a magnitude stand for. -/
def signed (sign : UInt8) (magnitude : Nat) : Int := if sign = 0 then magnitude else -magnitude

/-- The number is converted, negated, stored and printed as what it stands for,
and no step leaves the range of an `int32_t`. -/
structure IntDecoded (sign : UInt8) (magnitude : UInt32) : Prop where
  converted : magnitude.toInt32.toInt = magnitude.toNat
  product : sign ≠ 0 → -2 ^ 31 ≤ magnitude.toInt32.toInt * (-1) ∧
    magnitude.toInt32.toInt * (-1) < 2 ^ 31
  stored : ∀ rest, (parseUdpIntType (intPayload sign magnitude rest)).toInt =
    signed sign magnitude.toNat
  printed : ∀ rest, packedTail (.int (parseUdpIntType (intPayload sign magnitude rest))) =
    some (ascii " INT - " ++ signedDecimal (signed sign magnitude.toNat))

theorem parseUdpIntType_payload (sign : UInt8) (magnitude : UInt32) (rest : Bytes) :
    parseUdpIntType (intPayload sign magnitude rest) =
      if sign = 0 then magnitude.toInt32 else magnitude.toInt32 * (-1) := by
  have number : ntohl ((intPayload sign magnitude rest).drop 1) = magnitude :=
    ntohl_htonl magnitude rest
  unfold parseUdpIntType
  dsimp only
  rw [number]
  exact ite_not _ _ _

/-- An INT is decoded to its number exactly when the magnitude fits in an `int32_t`. -/
theorem intDecoded_iff (sign : UInt8) (magnitude : UInt32) :
    IntDecoded sign magnitude ↔ magnitude.toNat < 2 ^ 31 := by
  constructor
  · intro decoded
    by_contra large
    have wrapped := decoded.converted
    rw [toInt32_toInt, if_neg large] at wrapped
    omega
  · intro small
    have converted : magnitude.toInt32.toInt = magnitude.toNat := by
      rw [toInt32_toInt, if_pos small]
    have stored : ∀ rest, (parseUdpIntType (intPayload sign magnitude rest)).toInt =
        signed sign magnitude.toNat := by
      intro rest
      rw [parseUdpIntType_payload, signed]
      split
      · exact converted
      · rw [Int32.toInt_mul, converted]
        change ((magnitude.toNat : Int) * (-1)).bmod (2 ^ 32) = _
        rw [Int.bmod_eq_of_le (by omega) (by omega)]
        omega
    refine ⟨converted, ?_, stored, ?_⟩
    · intro negative
      rw [converted]
      omega
    · intro rest
      rw [packedTail, stored]

/-- 3000000000 is printed as a negative number. -/
theorem int_not_decoded : ¬ ∀ sign magnitude, IntDecoded sign magnitude := by
  intro always
  have small := (always 0 3000000000).converted
  rw [toInt32_toInt] at small
  exact absurd small (by decide)

/-! ## FLOAT -/

/-- The number that a quotient stands for, before any rounding. -/
def Quotient.value (quotient : Quotient) : ℚ :=
  (if quotient.neg then -1 else 1) * (quotient.num / quotient.den)

/-- The divisor is the power of ten, which neither the `int` that accumulates it
nor the `uint32_t` that is returned loses, no square that is multiplied in has
wrapped, and the number is decoded to the quotient by the divisor. -/
structure FloatDecoded (sign : UInt8) (magnitude : UInt32) (exponent : UInt8) : Prop where
  accumulated : (ipowLoop 8 10 exponent 1).toInt = 10 ^ exponent.toNat
  divisor : (ipow 10 exponent).toNat = 10 ^ exponent.toNat
  squares : ∀ passed last, ipowWhile.Exits ⟨10, exponent, 1⟩ passed last →
    ∀ (count : Nat) (vars : IpowVars), passed[count]? = some vars →
      vars.base.toNat = 10 ^ 2 ^ count
  divides : ∀ rest, (parseUdpFloatType (floatPayload sign magnitude exponent rest)).den =
    (ipow 10 exponent).toNat
  nonzero : ipow 10 exponent ≠ 0
  value : ∀ rest, (parseUdpFloatType (floatPayload sign magnitude exponent rest)).value =
    signed sign magnitude.toNat / 10 ^ exponent.toNat

theorem parseUdpFloatType_payload (sign : UInt8) (magnitude : UInt32) (exponent : UInt8)
    (rest : Bytes) :
    parseUdpFloatType (floatPayload sign magnitude exponent rest) =
      ⟨decide (sign ≠ 0), magnitude.toNat, (ipow 10 exponent).toNat⟩ := by
  have number : ntohl ((floatPayload sign magnitude exponent rest).drop 1) = magnitude :=
    ntohl_htonl magnitude (exponent :: rest)
  have digits : byteAt (floatPayload sign magnitude exponent rest) 5 = exponent := rfl
  have first : byteAt (floatPayload sign magnitude exponent rest) 0 = sign := rfl
  unfold parseUdpFloatType
  rw [number, digits, first]
  by_cases negative : sign ≠ 0
  · simp [negative, Quotient.of, Quotient.negate]
  · simp [negative, Quotient.of]

theorem power_lt_iff (exponent : Nat) : 10 ^ exponent < 2 ^ 32 ↔ exponent ≤ 9 := by
  constructor
  · intro small
    by_contra large
    have tenth : 10 ^ 10 ≤ 10 ^ exponent := Nat.pow_le_pow_right (by decide) (by omega)
    omega
  · intro few
    have ninth : 10 ^ exponent ≤ 10 ^ 9 := Nat.pow_le_pow_right (by decide) few
    omega

theorem square_fits {count : Nat} (few : count ≤ 3) : 10 ^ 2 ^ count < 2 ^ 32 := by
  have third : 10 ^ 2 ^ count ≤ 10 ^ 2 ^ 3 :=
    Nat.pow_le_pow_right (by decide) (Nat.pow_le_pow_right (by decide) few)
  omega

/-- The square that the last round leaves behind is multiplied in nowhere. With
eight or nine digits it is 10 ^ 16 and wraps, with fewer it does not. -/
theorem last_square_iff {exponent : UInt8} (few : exponent.toNat ≤ 9) {passed : List IpowVars}
    {last : IpowVars} (exits : ipowWhile.Exits ⟨10, exponent, 1⟩ passed last) :
    last.base.toNat = 10 ^ 2 ^ passed.length ↔ exponent.toNat ≤ 7 := by
  obtain ⟨below, squared⟩ := ipowWhile_last exits
  have rounds : ∀ count, count < passed.length → 2 ^ count ≤ exponent.toNat := fun count inside =>
    (ipowWhile_base exits (List.getElem?_eq_getElem inside)).1
  have ten : (10 : UInt32).toNat = 10 := rfl
  rw [ten] at squared
  constructor
  · intro kept
    by_contra many
    have four : 4 ≤ passed.length := by
      by_contra short
      have third : 2 ^ passed.length ≤ 2 ^ 3 := Nat.pow_le_pow_right (by decide) (by omega)
      omega
    have large : 10 ^ 2 ^ 4 ≤ 10 ^ 2 ^ passed.length :=
      Nat.pow_le_pow_right (by decide) (Nat.pow_le_pow_right (by decide) four)
    have small := last.base.toNat_lt
    omega
  · intro less
    have three : passed.length ≤ 3 := by
      by_contra long
      have third := rounds 3 (by omega)
      omega
    rw [squared, Nat.mod_eq_of_lt (square_fits three)]

/-- A FLOAT is decoded to its number exactly when it has at most nine digits
behind the point. -/
theorem floatDecoded_iff (sign : UInt8) (magnitude : UInt32) (exponent : UInt8) :
    FloatDecoded sign magnitude exponent ↔ exponent.toNat ≤ 9 := by
  constructor
  · intro decoded
    rw [← power_lt_iff, ← decoded.divisor]
    exact UInt32.toNat_lt _
  · intro few
    have divisor : (ipow 10 exponent).toNat = 10 ^ exponent.toNat := by
      rw [ipow_toNat]
      exact Nat.mod_eq_of_lt ((power_lt_iff _).mpr few)
    have ninth : 10 ^ exponent.toNat ≤ 10 ^ 9 := Nat.pow_le_pow_right (by decide) few
    have parsed := parseUdpFloatType_payload sign magnitude exponent
    refine ⟨?_, divisor, ?_, fun rest => by rw [parsed], ?_, ?_⟩
    · have held := toInt32_toInt (ipow 10 exponent)
      rw [divisor, if_pos (by omega)] at held
      exact_mod_cast held
    · intro passed last exits count vars here
      obtain ⟨within, squared⟩ := ipowWhile_base exits here
      have rounds : count ≤ 3 := by
        by_contra many
        have fourth : 2 ^ 4 ≤ 2 ^ count := Nat.pow_le_pow_right (by decide) (by omega)
        omega
      rw [squared]
      exact Nat.mod_eq_of_lt (square_fits rounds)
    · intro zero
      rw [zero] at divisor
      exact absurd divisor.symm (Nat.pow_pos (by decide)).ne'
    · intro rest
      rw [parsed, Quotient.value, divisor, signed]
      by_cases positive : sign = 0
      · simp [positive]
      · simp [positive, neg_div]

/-- With ten digits behind the point the divisor is 1410065408. -/
theorem float_not_decoded : ¬ ∀ sign magnitude exponent, FloatDecoded sign magnitude exponent := by
  intro always
  have divisor := (always 0 1 10).divisor
  rw [ipow_toNat] at divisor
  exact absurd divisor (by decide)

end TopicBroker
