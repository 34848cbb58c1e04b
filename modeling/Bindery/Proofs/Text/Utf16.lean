import Bindery.Text.Utf16

/-! UTF-16 in either byte order. A text is read from its own octets and from no others: each unit
that stands alone is a character, and so is each high surrogate with the low one behind it. -/
namespace Bindery.Utf16

variable {order : Order}

/-! ## Units as octets -/

theorem unit_lt (order : Order) (a b : UInt8) : order.unit a b < 0x10000 := by
  have first : a.toNat < 256 := a.toNat_lt
  have second : b.toNat < 256 := b.toNat_lt
  cases order <;> simp only [Order.unit] <;> omega

theorem bytes_unit (order : Order) (a b : UInt8) : order.bytes (order.unit a b) = [a, b] := by
  have first : a.toNat < 256 := a.toNat_lt
  have second : b.toNat < 256 := b.toNat_lt
  cases order with
  | little =>
    have low : (a.toNat + 256 * b.toNat) % 256 = a.toNat := by omega
    have high : (a.toNat + 256 * b.toNat) / 256 = b.toNat := by omega
    simp only [Order.unit, Order.bytes, low, high, UInt8.ofNat_toNat]
  | big =>
    have high : (256 * a.toNat + b.toNat) / 256 = a.toNat := by omega
    have low : (256 * a.toNat + b.toNat) % 256 = b.toNat := by omega
    simp only [Order.unit, Order.bytes, low, high, UInt8.ofNat_toNat]

theorem exists_bytes {unit : Nat} (order : Order) (small : unit < 0x10000) :
    ∃ a b, order.bytes unit = [a, b] ∧ order.unit a b = unit := by
  cases order with
  | little =>
    refine ⟨_, _, rfl, ?_⟩
    simp only [Order.unit, UInt8.toNat_ofNat']
    omega
  | big =>
    refine ⟨_, _, rfl, ?_⟩
    simp only [Order.unit, UInt8.toNat_ofNat']
    omega

theorem cons_cons_eq (order : Order) (a b : UInt8) (rest : Bytes) :
    a :: b :: rest = order.bytes (order.unit a b) ++ rest := by
  rw [bytes_unit]
  rfl

theorem length_bytes (order : Order) (unit : Nat) : (order.bytes unit).length = 2 := by
  cases order <;> rfl

theorem bytes_append_inj {unit other : Nat} {rest later : Bytes} (small : unit < 0x10000)
    (smallOther : other < 0x10000) (same : order.bytes unit ++ rest = order.bytes other ++ later) :
    unit = other ∧ rest = later := by
  obtain ⟨a, b, octets, back⟩ := exists_bytes order small
  obtain ⟨c, d, octets', back'⟩ := exists_bytes order smallOther
  rw [octets, octets'] at same
  simp only [List.cons_append, List.nil_append, List.cons.injEq] at same
  obtain ⟨rfl, rfl, rfl⟩ := same
  exact ⟨back.symm.trans back', rfl⟩

/-! ## Characters as units -/

theorem toNat_cases (c : Char) :
    c.toNat < 0xD800 ∨ (0xE000 ≤ c.toNat ∧ c.toNat < 0x110000) := by
  have value : c.toNat = c.val.toNat := rfl
  rcases c.valid with low | ⟨high, top⟩
  · exact .inl low
  · exact .inr ⟨by omega, top⟩

theorem toNat_ofNat_of_lt {n : Nat}
    (valid : n < 0xD800 ∨ (0xE000 ≤ n ∧ n < 0x110000)) : (Char.ofNat n).toNat = n := by
  have legal : n.isValidChar := by
    rcases valid with low | ⟨high, top⟩
    · exact .inl low
    · exact .inr ⟨by omega, top⟩
  rw [Char.ofNat, dif_pos legal]
  rfl

theorem toNat_join {high low : Nat} (first : isHigh high = true) (second : isLow low = true) :
    (join high low).toNat = 0x10000 + 0x400 * (high - 0xD800) + (low - 0xDC00) := by
  simp only [isHigh, isLow, Bool.and_eq_true, decide_eq_true_eq] at first second
  exact toNat_ofNat_of_lt (by omega)

theorem units_cases (c : Char) :
    (units c = [c.toNat] ∧ c.toNat < 0x10000 ∧ isHigh c.toNat = false ∧ isLow c.toNat = false) ∨
      ∃ high low, units c = [high, low] ∧ isHigh high = true ∧ isLow low = true ∧
        join high low = c := by
  have range := toNat_cases c
  unfold units
  simp only []
  split
  · rename_i small
    have apart : isHigh c.toNat = false ∧ isLow c.toNat = false := by
      simp only [isHigh, isLow, Bool.and_eq_false_iff, decide_eq_false_iff_not]
      omega
    exact .inl ⟨rfl, small, apart⟩
  · have high : isHigh (0xD800 + (c.toNat - 0x10000) / 0x400) = true := by
      simp only [isHigh, Bool.and_eq_true, decide_eq_true_eq]
      omega
    have low : isLow (0xDC00 + (c.toNat - 0x10000) % 0x400) = true := by
      simp only [isLow, Bool.and_eq_true, decide_eq_true_eq]
      omega
    refine .inr ⟨_, _, rfl, high, low, Char.toNat_inj.mp ?_⟩
    rw [toNat_join high low]
    omega

theorem units_ofNat {unit : Nat} (small : unit < 0x10000) (notHigh : isHigh unit = false)
    (notLow : isLow unit = false) : units (Char.ofNat unit) = [unit] := by
  simp only [isHigh, isLow, Bool.and_eq_false_iff, decide_eq_false_iff_not] at notHigh notLow
  have number := toNat_ofNat_of_lt (n := unit) (by omega)
  rw [units, number, if_pos small]

theorem units_join {high low : Nat} (first : isHigh high = true) (second : isLow low = true) :
    units (join high low) = [high, low] := by
  have number := toNat_join first second
  simp only [isHigh, isLow, Bool.and_eq_true, decide_eq_true_eq] at first second
  have large : ¬ 0x10000 + 0x400 * (high - 0xD800) + (low - 0xDC00) < 0x10000 := by omega
  rw [units, number]
  simp only [if_neg large, List.cons.injEq, and_true]
  omega

/-! ## Texts as octets -/

theorem lt_of_isHigh {unit : Nat} (high : isHigh unit = true) : unit < 0x10000 := by
  simp only [isHigh, Bool.and_eq_true, decide_eq_true_eq] at high
  omega

theorem lt_of_isLow {unit : Nat} (low : isLow unit = true) : unit < 0x10000 := by
  simp only [isLow, Bool.and_eq_true, decide_eq_true_eq] at low
  omega

theorem encode_cons (order : Order) (c : Char) (cs : List Char) :
    encode order (c :: cs) = (units c).flatMap order.bytes ++ encode order cs :=
  List.flatMap_cons

/-- The first unit of a text tells its first character, alone or with the second one. -/
theorem encode_eq_bytes_append_iff {unit : Nat} {rest : Bytes} {text : List Char}
    (small : unit < 0x10000) : encode order text = order.bytes unit ++ rest ↔
      (isHigh unit = false ∧ isLow unit = false ∧
        ∃ later, text = Char.ofNat unit :: later ∧ encode order later = rest) ∨
      (isHigh unit = true ∧ ∃ low later, isLow low = true ∧ text = join unit low :: later ∧
        order.bytes low ++ encode order later = rest) := by
  constructor
  · intro octets
    cases text with
    | nil =>
      obtain ⟨a, b, two, -⟩ := exists_bytes order small
      rw [two] at octets
      cases octets
    | cons c text =>
      rw [encode_cons] at octets
      rcases units_cases c with
        ⟨one, within, notHigh, notLow⟩ | ⟨high, low, two, first, second, rfl⟩
      · rw [one, List.flatMap_singleton] at octets
        obtain ⟨rfl, rfl⟩ := bytes_append_inj within small octets
        exact .inl ⟨notHigh, notLow, text, by rw [Char.ofNat_toNat], rfl⟩
      · rw [two, List.flatMap_cons, List.flatMap_singleton, List.append_assoc] at octets
        obtain ⟨rfl, rfl⟩ := bytes_append_inj (lt_of_isHigh first) small octets
        exact .inr ⟨first, low, text, second, rfl, rfl⟩
  · rintro (⟨notHigh, notLow, later, rfl, rfl⟩ | ⟨first, low, later, second, rfl, rfl⟩)
    · rw [encode_cons, units_ofNat small notHigh notLow, List.flatMap_singleton]
    · rw [encode_cons, units_join first second, List.flatMap_cons, List.flatMap_singleton,
        List.append_assoc]

theorem encode_eq_high_append_iff {high : Nat} (first : isHigh high = true) {rest : Bytes}
    {text : List Char} : encode order text = order.bytes high ++ rest ↔
      ∃ low later, isLow low = true ∧ text = join high low :: later ∧
        order.bytes low ++ encode order later = rest := by
  rw [encode_eq_bytes_append_iff (lt_of_isHigh first)]
  simp [first]

theorem encode_eq_high_cons_cons_iff {high : Nat} (first : isHigh high = true) {a b : UInt8}
    {rest : Bytes} {text : List Char} : encode order text = order.bytes high ++ a :: b :: rest ↔
      isLow (order.unit a b) = true ∧
        ∃ later, text = join high (order.unit a b) :: later ∧ encode order later = rest := by
  rw [encode_eq_high_append_iff first, cons_cons_eq order a b rest]
  constructor
  · rintro ⟨low, later, second, rfl, octets⟩
    obtain ⟨rfl, rfl⟩ := bytes_append_inj (lt_of_isLow second) (unit_lt order a b) octets
    exact ⟨second, later, rfl, rfl⟩
  · rintro ⟨second, later, rfl, rfl⟩
    exact ⟨_, later, second, rfl, rfl⟩

/-- A unit that begins no pair is a character, unless it is a low surrogate. -/
theorem encode_eq_cons_cons_iff {a b : UInt8} (notHigh : isHigh (order.unit a b) = false)
    {rest : Bytes} {text : List Char} : encode order text = a :: b :: rest ↔
      isLow (order.unit a b) = false ∧
        ∃ later, text = Char.ofNat (order.unit a b) :: later ∧ encode order later = rest := by
  rw [cons_cons_eq order a b rest, encode_eq_bytes_append_iff (unit_lt order a b)]
  simp [notHigh]

theorem even_length_encode (order : Order) (text : List Char) :
    (encode order text).length % 2 = 0 := by
  have each (us : List Nat) : (us.flatMap order.bytes).length = 2 * us.length := by
    induction us with
    | nil => rfl
    | cons u us ih =>
      rw [List.flatMap_cons, List.length_append, ih, length_bytes, List.length_cons]
      omega
  induction text with
  | nil => rfl
  | cons c text ih =>
    rw [encode_cons, List.length_append, each]
    omega

theorem encode_eq_nil_iff {text : List Char} : encode order text = [] ↔ text = [] := by
  refine ⟨fun none => ?_, fun none => by rw [none]; rfl⟩
  cases text with
  | nil => rfl
  | cons c text =>
    rw [encode_cons] at none
    obtain ⟨first, -⟩ := List.append_eq_nil_iff.mp none
    rcases units_cases c with ⟨one, -⟩ | ⟨high, low, two, -⟩
    · rw [one] at first
      cases order <;> cases first
    · rw [two] at first
      cases order <;> cases first

theorem append_reverse_cons_iff {text seen : List Char} {c : Char} {holds : List Char → Prop} :
    (∃ later, text = (c :: seen).reverse ++ later ∧ holds later) ↔
      ∃ rest, text = seen.reverse ++ rest ∧ ∃ later, rest = c :: later ∧ holds later := by
  constructor
  · rintro ⟨later, rfl, good⟩
    exact ⟨c :: later, by simp, later, rfl, good⟩
  · rintro ⟨_, rfl, later, rfl, good⟩
    exact ⟨later, by simp, good⟩

def held (order : Order) (pending : Option Nat) : Bytes := (pending.map order.bytes).getD []

/-- The reader finds a text behind what it has seen if that is what was written, with the unit that
waits in front. -/
theorem decodeFrom_eq_some_iff (order : Order) (seen : List Char) (pending : Option Nat)
    (bytes : Bytes) (waits : ∀ unit ∈ pending, isHigh unit = true) {text : List Char} :
    decodeFrom order seen pending bytes = some text ↔
      ∃ rest, text = seen.reverse ++ rest ∧ encode order rest = held order pending ++ bytes := by
  fun_induction decodeFrom order seen pending bytes generalizing text with
  | case1 seen pending idle =>
    obtain rfl := Option.isNone_iff_eq_none.mp idle
    simp only [held, Option.map_none, Option.getD_none, List.append_nil, encode_eq_nil_iff,
      exists_eq_right, Option.some.injEq]
    exact eq_comm
  | case2 seen pending busy =>
    obtain ⟨high, rfl⟩ : ∃ high, pending = some high := by
      cases pending with
      | none => exact absurd rfl busy
      | some high => exact ⟨high, rfl⟩
    refine iff_of_false (by simp) ?_
    rintro ⟨rest, -, whole⟩
    obtain ⟨low, later, -, -, left⟩ := (encode_eq_high_append_iff (waits high rfl)).mp whole
    cases order <;> cases left
  | case3 seen pending a =>
    refine iff_of_false (by simp) ?_
    rintro ⟨rest, -, whole⟩
    have even := even_length_encode order rest
    have odd : (held order pending ++ [a]).length % 2 = 1 := by
      cases pending with
      | none => rfl
      | some high => simp [held, length_bytes]
    rw [whole, odd] at even
    cases even
  | case4 seen a b rest unit high second ih =>
    refine (ih (by simp)).trans (append_reverse_cons_iff.trans ?_)
    simp only [held, Option.map_some, Option.getD_some,
      encode_eq_high_cons_cons_iff (waits high rfl)]
    exact exists_congr fun later => and_congr_right fun _ => (and_iff_right second).symm
  | case5 seen a b rest unit high other =>
    refine iff_of_false (by simp) ?_
    rintro ⟨later, -, whole⟩
    exact other ((encode_eq_high_cons_cons_iff (waits high rfl)).mp whole).1
  | case6 seen a b rest unit first ih =>
    refine (ih (by simpa using first)).trans ?_
    rw [cons_cons_eq order a b rest]
    rfl
  | case7 seen a b rest unit notHigh second =>
    refine iff_of_false (by simp) ?_
    rintro ⟨later, -, whole⟩
    obtain ⟨notLow, -⟩ := (encode_eq_cons_cons_iff (Bool.eq_false_iff.mpr notHigh)).mp whole
    exact Bool.false_ne_true (notLow.symm.trans second)
  | case8 seen a b rest unit notHigh notLow ih =>
    refine (ih (by simp)).trans (append_reverse_cons_iff.trans ?_)
    refine exists_congr fun later => and_congr_right fun _ => ?_
    refine Iff.trans ?_ (encode_eq_cons_cons_iff (Bool.eq_false_iff.mpr notHigh)).symm
    exact (and_iff_right (Bool.eq_false_iff.mpr notLow)).symm

theorem decode?_eq_some_iff {bytes : Bytes} {text : List Char} :
    decode? order bytes = some text ↔ bytes = encode order text := by
  refine (decodeFrom_eq_some_iff order [] none bytes (by simp)).trans ?_
  simp [held, eq_comm]

end Bindery.Utf16
