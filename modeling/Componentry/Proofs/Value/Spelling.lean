import Componentry.Proofs.Json.Scanning
import Componentry.Proofs.Text.Trimming
import Componentry.Value.Convert
import Mathlib.Data.List.Forall2

/-!
# Spelling literals

Which texts are literals is said without reading them. A numeral spells an integer by a run of
digits, behind a sign that its type allows. The literal of a list has the literals of the items
between its braces, with a comma between two of them, or nothing that is visible.

Reading a literal succeeds exactly on what spells a value of the type, and gives that value. The
integral types differ in their signs alone: whatever the name of the type, the integer has 64
bits.
-/

namespace Componentry

theorem Except.map_eq_ok_iff {ε α β : Type} {f : α → β} {x : Except ε α} {b : β} :
    x.map f = .ok b ↔ ∃ a, x = .ok a ∧ f a = b := by
  cases x <;> simp [Except.map]

theorem Except.toOption_eq_some_iff {ε α : Type} {x : Except ε α} {a : α} :
    x.toOption = some a ↔ x = .ok a := by
  cases x <;> simp [Except.toOption]

theorem Except.mapM_eq_ok_iff {ε α β : Type} {f : α → Except ε β} {xs : List α} {ys : List β} :
    xs.mapM f = .ok ys ↔ List.Forall₂ (fun x y => f x = .ok y) xs ys := by
  induction xs generalizing ys with
  | nil =>
      rw [List.mapM_nil, List.forall₂_nil_left_iff]
      exact ⟨fun h => (Except.ok.inj h).symm, fun h => h ▸ rfl⟩
  | cons x xs ih =>
      rw [List.mapM_cons, List.forall₂_cons_left_iff]
      cases hx : f x with
      | error failure => exact ⟨(nomatch ·), fun ⟨_, _, hy, _⟩ => nomatch hy⟩
      | ok y =>
          cases hxs : xs.mapM f with
          | error failure =>
              refine ⟨(nomatch ·), fun ⟨_, _, _, hrest, _⟩ => ?_⟩
              exact nomatch hxs.symm.trans (ih.mpr hrest)
          | ok rest =>
              constructor
              · rintro ⟨⟩
                exact ⟨y, rest, rfl, ih.mp hxs, rfl⟩
              · rintro ⟨_, _, ⟨⟩, hrest, rfl⟩
                cases hxs.symm.trans (ih.mpr hrest)
                rfl

namespace Numeral

/-- One digit or more. -/
structure IsRun (digits : List Char) : Prop where
  nonempty : digits ≠ []
  digit : ∀ c ∈ digits, c.isDigit = true

/-- The literal is a numeral of the integer: digits, which may stand behind a plus sign, or
behind a minus sign where the type has negative integers. -/
inductive Spells (signed : Bool) : List Char → Int → Prop
  | plain {digits : List Char} (hrun : IsRun digits) :
      Spells signed digits (Decimal.digitsValue digits)
  | plus {digits : List Char} (hrun : IsRun digits) :
      Spells signed ('+' :: digits) (Decimal.digitsValue digits)
  | minus {digits : List Char} (hsigned : signed = true) (hrun : IsRun digits) :
      Spells signed ('-' :: digits) (-Decimal.digitsValue digits)

/-- The integer is one of so many bits, one of which is the sign if there is one. -/
def HasBits (signed : Bool) (bits : Nat) (n : Int) : Prop :=
  if signed then -2 ^ (bits - 1) ≤ n ∧ n < 2 ^ (bits - 1) else 0 ≤ n ∧ n < 2 ^ bits

instance (signed : Bool) (bits : Nat) (n : Int) : Decidable (HasBits signed bits n) := by
  unfold HasBits
  infer_instance

/-! ## Runs of digits -/

theorem le_foldl_digits (digits : List Char) (value : Nat) :
    value ≤ digits.foldl (fun value c => value * 10 + digitValue c) value := by
  induction digits generalizing value with
  | nil => exact Nat.le_refl value
  | cons c rest ih =>
      refine Nat.le_trans ?_ (ih (value * 10 + digitValue c))
      omega

/-- The bound is kept by every part of a run if the whole keeps it, since the value grows. -/
theorem readDigits_eq_ok_iff {bound : Nat} {beyond : NumeralFault} {digits : List Char}
    {value n : Nat} (hvalue : value ≤ bound) :
    readDigits bound beyond value digits = .ok n ↔
      (∀ c ∈ digits, c.isDigit = true) ∧
        digits.foldl (fun value c => value * 10 + digitValue c) value = n ∧ n ≤ bound := by
  induction digits generalizing value with
  | nil =>
      simp only [readDigits, Except.ok.injEq, List.foldl_nil, List.not_mem_nil, false_implies,
        implies_true, true_and]
      exact ⟨fun heq => ⟨heq, heq ▸ hvalue⟩, And.left⟩
  | cons c rest ih =>
      have hgrows := le_foldl_digits rest (value * 10 + digitValue c)
      rw [readDigits, List.foldl_cons, List.forall_mem_cons]
      by_cases hdigit : c.isDigit = true
      · rw [if_pos hdigit]
        by_cases hnext : value * 10 + digitValue c ≤ bound
        · rw [if_pos hnext, ih hnext, and_assoc, and_iff_right hdigit]
        · rw [if_neg hnext]
          refine ⟨(nomatch ·), fun ⟨_, heq, hbound⟩ => ?_⟩
          omega
      · simp [hdigit]

theorem readRun_eq_ok_iff {bound : Nat} {beyond : NumeralFault} {digits : List Char} {n : Nat} :
    readRun bound beyond digits = .ok n ↔
      IsRun digits ∧ Decimal.digitsValue digits = n ∧ n ≤ bound := by
  cases digits with
  | nil => exact ⟨(nomatch ·), fun h => absurd rfl h.1.nonempty⟩
  | cons c rest =>
      rw [readRun, List.isEmpty_cons, if_neg Bool.false_ne_true,
        readDigits_eq_ok_iff (Nat.zero_le _)]
      exact ⟨fun ⟨hdigits, hvalue⟩ => ⟨⟨List.cons_ne_nil c rest, hdigits⟩, hvalue⟩,
        fun ⟨hrun, hvalue⟩ => ⟨hrun.digit, hvalue⟩⟩

/-! ## Numerals -/

section Spells

variable {signed : Bool} {literal : List Char} {n : Int}

theorem not_isRun_of_sign {c : Char} (hc : c.isDigit = false) (rest : List Char) :
    ¬IsRun (c :: rest) := by
  intro hrun
  rw [hrun.digit c List.mem_cons_self] at hc
  cases hc

theorem spells_plus_iff : Spells signed ('+' :: literal) n ↔
    IsRun literal ∧ n = Decimal.digitsValue literal := by
  constructor
  · intro hspells
    cases hspells with
    | plain hrun => exact absurd hrun (not_isRun_of_sign rfl literal)
    | plus hrun => exact ⟨hrun, rfl⟩
  · rintro ⟨hrun, rfl⟩
    exact .plus hrun

theorem spells_minus_iff : Spells signed ('-' :: literal) n ↔
    signed = true ∧ IsRun literal ∧ n = -Decimal.digitsValue literal := by
  constructor
  · intro hspells
    cases hspells with
    | plain hrun => exact absurd hrun (not_isRun_of_sign rfl literal)
    | minus hsigned hrun => exact ⟨hsigned, hrun, rfl⟩
  · rintro ⟨hsigned, hrun, rfl⟩
    exact .minus hsigned hrun

theorem spells_unsigned_iff (hplus : ∀ rest, literal ≠ '+' :: rest)
    (hminus : ∀ rest, literal ≠ '-' :: rest) :
    Spells signed literal n ↔ IsRun literal ∧ n = Decimal.digitsValue literal := by
  constructor
  · intro hspells
    cases hspells with
    | plain hrun => exact ⟨hrun, rfl⟩
    | plus hrun => exact absurd rfl (hplus _)
    | minus _ hrun => exact absurd rfl (hminus _)
  · rintro ⟨hrun, rfl⟩
    exact .plain hrun

theorem Spells.nonempty (h : Spells signed literal n) : literal ≠ [] := by
  cases h with
  | plain hrun => exact hrun.nonempty
  | plus hrun => exact List.cons_ne_nil _ _
  | minus _ hrun => exact List.cons_ne_nil _ _

/-- A numeral has digits and signs. -/
theorem Spells.mem (h : Spells signed literal n) {c : Char} (hc : c ∈ literal) :
    c.isDigit = true ∨ c = '+' ∨ c = '-' := by
  cases h with
  | plain hrun => exact .inl (hrun.digit c hc)
  | plus hrun => exact (List.mem_cons.mp hc).elim (.inr ∘ .inl) (.inl ∘ hrun.digit c)
  | minus _ hrun => exact (List.mem_cons.mp hc).elim (.inr ∘ .inr) (.inl ∘ hrun.digit c)

theorem Spells.isBlank_eq_false (h : Spells signed literal n) {c : Char} (hc : c ∈ literal) :
    Text.isBlank c = false := by
  rcases h.mem hc with hdigit | rfl | rfl
  · exact Text.isBlank_of_isDigit hdigit
  · rfl
  · rfl

theorem Spells.not_mem (h : Spells signed literal n) {c : Char} (hdigit : c.isDigit = false)
    (hplus : c ≠ '+') (hminus : c ≠ '-') : c ∉ literal := by
  intro hc
  rcases h.mem hc with hc | hc | hc
  · exact absurd hc (by simp [hdigit])
  · exact hplus hc
  · exact hminus hc

/-- What is written for an integer spells it. -/
theorem spells_ofInt {signed : Bool} {n : Int} (hsign : signed = true ∨ 0 ≤ n) :
    Spells signed (ofInt n) n := by
  have hrun : ∀ m, IsRun (ofNat m) := fun m =>
    ⟨Nat.toDigits_ne_nil, fun c hc => Json.isDigit_of_mem_ofNat hc⟩
  cases n with
  | ofNat n =>
      have hplain := @Spells.plain signed _ (hrun n)
      rwa [Json.digitsValue_ofNat] at hplain
  | negSucc n =>
      have hsigned : signed = true := hsign.resolve_right (by omega)
      have hminus := Spells.minus hsigned (hrun (n + 1))
      rwa [Json.digitsValue_ofNat] at hminus

theorem readSigned_eq_ok_iff :
    readSigned literal = .ok n ↔ Spells true literal n ∧ HasBits true 64 n := by
  have hbits : ∀ m : Int, HasBits true 64 m ↔
      -((maxSigned : Int) + 1) ≤ m ∧ m ≤ (maxSigned : Int) := by
    intro m
    simp only [HasBits, maxSigned, if_true]
    omega
  rw [hbits]
  unfold readSigned
  split
  next => exact ⟨(nomatch ·), fun h => absurd rfl h.1.nonempty⟩
  next digits =>
    simp only [Except.map_eq_ok_iff, readRun_eq_ok_iff, spells_plus_iff, Int.ofNat_eq_natCast]
    constructor
    · rintro ⟨m, ⟨hrun, rfl, hbound⟩, rfl⟩
      exact ⟨⟨hrun, rfl⟩, by omega, Int.ofNat_le.mpr hbound⟩
    · rintro ⟨⟨hrun, rfl⟩, _, hbound⟩
      exact ⟨_, ⟨hrun, rfl, Int.ofNat_le.mp hbound⟩, rfl⟩
  next digits =>
    simp only [Except.map_eq_ok_iff, readRun_eq_ok_iff, spells_minus_iff, true_and,
      Int.ofNat_eq_natCast]
    constructor
    · rintro ⟨m, ⟨hrun, rfl, hbound⟩, rfl⟩
      exact ⟨⟨hrun, rfl⟩, by omega, by omega⟩
    · rintro ⟨⟨hrun, rfl⟩, hbound, _⟩
      exact ⟨_, ⟨hrun, rfl, by omega⟩, rfl⟩
  next hplus hminus =>
    rw [spells_unsigned_iff hplus hminus]
    simp only [Except.map_eq_ok_iff, readRun_eq_ok_iff, Int.ofNat_eq_natCast]
    constructor
    · rintro ⟨m, ⟨hrun, rfl, hbound⟩, rfl⟩
      exact ⟨⟨hrun, rfl⟩, by omega, Int.ofNat_le.mpr hbound⟩
    · rintro ⟨⟨hrun, rfl⟩, _, hbound⟩
      exact ⟨_, ⟨hrun, rfl, Int.ofNat_le.mp hbound⟩, rfl⟩

theorem readUnsigned_eq_ok_iff {m : Nat} :
    readUnsigned literal = .ok m ↔ Spells false literal m ∧ HasBits false 64 m := by
  have hbits : HasBits false 64 m ↔ m ≤ maxUnsigned := by
    simp only [HasBits, maxUnsigned, Bool.false_eq_true, if_false]
    omega
  rw [hbits]
  unfold readUnsigned
  split
  next => exact ⟨(nomatch ·), fun h => absurd rfl h.1.nonempty⟩
  next digits =>
    rw [readRun_eq_ok_iff, spells_plus_iff, Int.ofNat_inj, and_assoc, eq_comm]
  next hplus =>
    by_cases hminus : ∃ rest, literal = '-' :: rest
    · obtain ⟨rest, rfl⟩ := hminus
      rw [readRun_eq_ok_iff, spells_minus_iff]
      exact ⟨fun h => absurd h.1 (not_isRun_of_sign rfl rest), fun h => nomatch h.1.1⟩
    · rw [readRun_eq_ok_iff, spells_unsigned_iff hplus (not_exists.mp hminus), Int.ofNat_inj,
        and_assoc, eq_comm]

end Spells

/-- A text, the blanks around it aside, is a numeral of 64 bits for the integer. -/
def Means (signed : Bool) (text : List Char) (n : Int) : Prop :=
  Spells signed (Text.trim text) n ∧ HasBits signed 64 n

theorem HasBits.sign {signed : Bool} {bits : Nat} {n : Int} (h : HasBits signed bits n) :
    signed = true ∨ 0 ≤ n := by
  cases signed with
  | true => exact .inl rfl
  | false => exact .inr h.1

theorem means_ofInt {signed : Bool} {n : Int} (hbits : HasBits signed 64 n) :
    Means signed (ofInt n) n := by
  have hspells := spells_ofInt hbits.sign
  have htight : Text.IsTight (ofInt n) := .of_forall fun c hc => hspells.isBlank_eq_false hc
  exact ⟨htight.trim_eq.symm ▸ hspells, hbits⟩

theorem Means.comma_not_mem {signed : Bool} {text : List Char} {n : Int} (h : Means signed text n) :
    ',' ∉ text := by
  rw [← Text.mem_trim_iff rfl]
  exact h.1.not_mem rfl (by decide) (by decide)

theorem Means.visible {signed : Bool} {text : List Char} {n : Int} (h : Means signed text n) :
    text.all Text.isBlank = false := by
  rw [← Bool.not_eq_true, ← Text.trim_eq_nil_iff]
  exact h.1.nonempty

end Numeral

/-! ## The names of types -/

namespace TypeName

/-- The innermost name, which stands before all `[]`. -/
def baseName : TypeName → String
  | base name => name
  | array _ item => item.baseName

theorem read_append_brackets (name : String) : read (name ++ "[]") =
    array (String.ofList (Text.trimLeft name.toList ++ ['[', ']'])) (read name) := by
  have htrim : Text.trimLeft (name ++ "[]").toList = Text.trimLeft name.toList ++ ['[', ']'] := by
    rw [String.toList_append, Text.trimLeft, List.dropWhile_append]
    cases hname : name.toList.dropWhile Text.isBlank with
    | nil => simp [Text.trimLeft, hname]; rfl
    | cons c rest => simp [Text.trimLeft, hname]
  rw [read, htrim, List.reverse_append]
  simp [ofReversed, read]

/-- The name of the type of arrays with so many dimensions. -/
def arrayOf (name : String) : Nat → String
  | 0 => name
  | dimensions + 1 => arrayOf name dimensions ++ "[]"

end TypeName

namespace Scalar

/-- The integral type of 64 bits with a sign or without. -/
def integral (signed : Bool) : Scalar := if signed then .signed else .unsigned

theorem read_name {scalar : Scalar} : ∀ name ∈ scalar.names, TypeName.read name = .base name := by
  cases scalar <;> decide

theorem baseName_read_arrayOf {scalar : Scalar} {name : String} (hname : name ∈ scalar.names)
    (dimensions : Nat) : (TypeName.read (TypeName.arrayOf name dimensions)).baseName = name := by
  induction dimensions with
  | zero => rw [TypeName.arrayOf, read_name name hname, TypeName.baseName]
  | succ dimensions ih =>
      rw [TypeName.arrayOf, TypeName.read_append_brackets, TypeName.baseName, ih]

/-- No two scalar types share a name. -/
theorem ofName?_eq_some_iff {scalar : Scalar} {name : String} :
    ofName? name = some scalar ↔ name ∈ scalar.names := by
  constructor
  · intro hfind
    unfold ofName? at hfind
    have hcontains := List.find?_some hfind
    exact List.contains_iff_mem.mp hcontains
  · revert name
    cases scalar <;> decide

/-- An integral literal is a numeral of 64 bits. -/
theorem read?_integral_eq_some_iff {signed : Bool} {text : List Char} {v : Value} :
    (integral signed).read? (Text.trim text) = some v ↔
      ∃ n, v = .integer n ∧ Numeral.Means signed text n := by
  cases signed with
  | true =>
      simp only [integral, if_true, read?, Option.map_eq_some_iff, Except.toOption_eq_some_iff,
        Numeral.readSigned_eq_ok_iff, Numeral.Means]
      exact exists_congr fun n => and_comm.trans (and_congr_left' eq_comm)
  | false =>
      simp only [integral, Bool.false_eq_true, if_false, read?, Option.map_eq_some_iff,
        Except.toOption_eq_some_iff, Numeral.readUnsigned_eq_ok_iff, Numeral.Means]
      constructor
      · rintro ⟨m, hmeans, rfl⟩
        exact ⟨m, rfl, hmeans⟩
      · rintro ⟨n, rfl, hmeans⟩
        obtain ⟨m, rfl⟩ := Int.eq_ofNat_of_zero_le hmeans.2.1
        exact ⟨m, hmeans, rfl⟩

end Scalar

namespace Value

/-- The text between the braces of a list literal spells items: nothing visible, or pieces with a
comma between two of them, each for an item. -/
inductive SpellsItems {α : Type} (spells : List Char → α → Prop) : List Char → List α → Prop
  | blank {inner : List Char} (hblank : inner.all Text.isBlank = true) :
      SpellsItems spells inner []
  | pieces {pieces : List (List Char)} {items : List α} (hnonempty : pieces ≠ [])
      (hpieces : List.Forall₂ spells pieces items) :
      SpellsItems spells ([','].intercalate pieces) items

/-- A text, the blanks around it aside, is the literal of a list of items. -/
def MeansList {α : Type} (spells : List Char → α → Prop) (text : List Char) (items : List α) :
    Prop :=
  ∃ inner, Text.trim text = openBrace :: inner ++ [closeBrace] ∧ SpellsItems spells inner items

theorem unbraced?_eq_some_iff {literal inner : List Char} :
    unbraced? literal = some inner ↔ literal = openBrace :: inner ++ [closeBrace] := by
  cases literal with
  | nil => simp [unbraced?]
  | cons c rest =>
      simp only [unbraced?, Bool.and_eq_true, decide_eq_true_eq, Option.ite_none_right_eq_some,
        Option.some.injEq, List.getLast?_eq_some_iff, List.cons_append, List.cons.injEq]
      constructor
      · rintro ⟨⟨hc, before, rfl⟩, hinner⟩
        rw [List.dropLast_concat] at hinner
        exact ⟨hc, hinner ▸ rfl⟩
      · rintro ⟨hc, rfl⟩
        exact ⟨⟨hc, inner, rfl⟩, List.dropLast_concat⟩

/-- At a scalar type the trimmed text is read. -/
theorem ofChars_base_eq_ok_iff {name : String} {scalar : Scalar}
    (hscalar : Scalar.ofName? name = some scalar) {raw : List Char} {v : Value} :
    ofChars raw (.base name) = .ok v ↔ scalar.read? (Text.trim raw) = some v := by
  simp only [ofChars, hscalar]
  cases scalar.read? (Text.trim raw) <;> simp

/-- At an array type the text between the braces is blank, or its pieces are read at the type of
the items. -/
theorem ofChars_array_eq_ok_iff {name : String} {item : TypeName} {raw : List Char} {v : Value} :
    ofChars raw (.array name item) = .ok v ↔
      ∃ inner, Text.trim raw = openBrace :: inner ++ [closeBrace] ∧
        ∃ items, v = list items ∧
          if inner.all Text.isBlank then items = []
          else List.Forall₂ (fun piece value => ofChars (Text.trim piece) item = .ok value)
            (Text.split ',' inner) items := by
  rw [ofChars]
  cases hunbraced : unbraced? (Text.trim raw) with
  | none =>
      refine ⟨(nomatch ·), fun ⟨inner, hraw, _⟩ => ?_⟩
      rw [unbraced?_eq_some_iff.mpr hraw] at hunbraced
      cases hunbraced
  | some inner =>
      have hinner : ∀ inner', Text.trim raw = openBrace :: inner' ++ [closeBrace] ↔
          inner' = inner := by
        intro inner'
        rw [← unbraced?_eq_some_iff, hunbraced, Option.some_inj, eq_comm]
      simp only [hinner, exists_eq_left]
      by_cases hblank : inner.all Text.isBlank = true
      · simp [hblank, eq_comm]
      · simp only [hblank, Bool.false_eq_true, if_false, Except.map_eq_ok_iff,
          Except.mapM_eq_ok_iff]
        exact exists_congr fun items => by rw [and_comm, eq_comm]

theorem exists_of_mem_left {α β : Type} {R : α → β → Prop} {xs : List α} {ys : List β}
    (h : List.Forall₂ R xs ys) {x : α} (hx : x ∈ xs) : ∃ y ∈ ys, R x y := by
  induction h with
  | nil => cases hx
  | @cons x' y _ _ hhead _ ih =>
      rcases List.mem_cons.mp hx with rfl | hrest
      · exact ⟨y, List.mem_cons_self, hhead⟩
      · obtain ⟨z, hz, hR⟩ := ih hrest
        exact ⟨z, List.mem_cons_of_mem y hz, hR⟩

theorem forall₂_map_right_iff {α : Type} {ofItem : α → Value} {spells : List Char → α → Prop}
    {pieces : List (List Char)} {values : List Value} :
    List.Forall₂ (fun piece value => ∃ a, value = ofItem a ∧ spells piece a) pieces values ↔
      ∃ items, values = items.map ofItem ∧ List.Forall₂ spells pieces items := by
  constructor
  · intro h
    induction h with
    | nil => exact ⟨[], rfl, .nil⟩
    | cons hhead _ ih =>
        obtain ⟨a, rfl, ha⟩ := hhead
        obtain ⟨items, rfl, hitems⟩ := ih
        exact ⟨a :: items, rfl, .cons ha hitems⟩
  · rintro ⟨items, rfl, hitems⟩
    rw [List.forall₂_map_right_iff]
    exact hitems.imp fun _ a ha => ⟨a, rfl, ha⟩

/-- Where the pieces that stand for items have no comma and something visible, the splitting at
commas finds them. -/
theorem ofChars_array_eq_ok_iff_meansList {α : Type} {ofItem : α → Value}
    {spells : List Char → α → Prop} {name : String} {item : TypeName}
    (hitem : ∀ piece value, ofChars (Text.trim piece) item = .ok value ↔
      ∃ a, value = ofItem a ∧ spells piece a)
    (hcomma : ∀ piece a, spells piece a → ',' ∉ piece)
    (hvisible : ∀ piece a, spells piece a → piece.all Text.isBlank = false)
    {raw : List Char} {v : Value} :
    ofChars raw (.array name item) = .ok v ↔
      ∃ items, v = list (items.map ofItem) ∧ MeansList spells raw items := by
  rw [ofChars_array_eq_ok_iff]
  simp only [hitem, forall₂_map_right_iff, MeansList]
  constructor
  · rintro ⟨inner, hraw, values, rfl, hvalues⟩
    split at hvalues
    next hblank =>
      subst hvalues
      exact ⟨[], rfl, inner, hraw, .blank hblank⟩
    next =>
      obtain ⟨items, rfl, hitems⟩ := hvalues
      have hpieces := SpellsItems.pieces
        (Text.split_eq_splitOn ',' inner ▸ List.splitOn_ne_nil ',' inner) hitems
      rw [Text.intercalate_split] at hpieces
      exact ⟨items, rfl, inner, hraw, hpieces⟩
  · rintro ⟨items, rfl, inner, hraw, hinner⟩
    refine ⟨inner, hraw, _, rfl, ?_⟩
    cases hinner with
    | blank hblank => rw [if_pos hblank, List.map_nil]
    | @pieces pieces _ hnonempty hpieces =>
        have hsplit : Text.split ',' ([','].intercalate pieces) = pieces := by
          rw [Text.split_eq_splitOn]
          refine List.splitOn_intercalate ',' (fun piece hpiece => ?_) hnonempty
          obtain ⟨a, _, ha⟩ := exists_of_mem_left hpieces hpiece
          exact hcomma piece a ha
        have hblank : ([','].intercalate pieces).all Text.isBlank = false := by
          cases hpieces with
          | nil => exact absurd rfl hnonempty
          | @cons piece a rest _ ha _ =>
              cases rest with
              | nil => rw [List.intercalate_singleton, hvisible piece a ha]
              | cons next rest =>
                  rw [List.intercalate_cons_cons, List.all_append, List.all_append,
                    hvisible piece a ha, Bool.false_and, Bool.false_and]
        rw [hsplit, hblank, if_neg Bool.false_ne_true]
        exact ⟨_, rfl, hpieces⟩

end Value

/-! ## Integral types -/

namespace Value

/-- A text converts to an integral type exactly if it is a numeral of 64 bits, with a sign or
without, and to the array of one exactly if it is a list of such numerals between braces. -/
theorem convert_integral_iff {signed : Bool} {name : String}
    (hname : name ∈ (Scalar.integral signed).names) (raw : String) (v : Value) :
    (convert name raw = .ok v ↔ ∃ n, v = .integer n ∧ Numeral.Means signed raw.toList n) ∧
      (convert (name ++ "[]") raw = .ok v ↔
        ∃ numbers : List Int, v = .list (numbers.map .integer) ∧
          MeansList (Numeral.Means signed) raw.toList numbers) := by
  have hscalar := Scalar.ofName?_eq_some_iff.mpr hname
  have hitem : ∀ text value, ofChars text (.base name) = .ok value ↔
      ∃ n, value = .integer n ∧ Numeral.Means signed text n := fun text value =>
    (ofChars_base_eq_ok_iff hscalar).trans Scalar.read?_integral_eq_some_iff
  rw [convert, convert, TypeName.read_append_brackets, Scalar.read_name name hname]
  refine ⟨hitem _ v, ofChars_array_eq_ok_iff_meansList (fun piece value => ?_)
    (fun _ _ => Numeral.Means.comma_not_mem) (fun _ _ => Numeral.Means.visible)⟩
  rw [hitem]
  simp only [Numeral.Means, Text.trim_trim]

/-- Forty thousand is no short, and is read as one all the same. -/
theorem convert_integral_iff_short :
    "short" ∈ (Scalar.integral true).names ∧
      convert "short" "\t+040000 " = .ok (.integer 40000) ∧
      convert "short[]" " \x7b-1 ,\t40000\x7d" = .ok (.list [.integer (-1), .integer 40000]) := by
  have hname : "short" ∈ (Scalar.integral true).names := by decide
  have hplus : Numeral.Means true "\t+040000 ".toList 40000 :=
    ⟨Numeral.Spells.plus ⟨by decide, List.all_eq_true.mp (by decide)⟩, by decide⟩
  have hitems : List.Forall₂ (Numeral.Means true) ["-1 ".toList, "\t40000".toList] [-1, 40000] :=
    .cons ⟨Numeral.Spells.minus rfl ⟨by decide, List.all_eq_true.mp (by decide)⟩, by decide⟩
      (.cons ⟨Numeral.Spells.plain ⟨by decide, List.all_eq_true.mp (by decide)⟩, by decide⟩ .nil)
  have hlist : MeansList (Numeral.Means true) " \x7b-1 ,\t40000\x7d".toList [-1, 40000] :=
    ⟨"-1 ,\t40000".toList, by decide, .pieces (by decide) hitems⟩
  exact ⟨hname, (convert_integral_iff hname _ _).1.mpr ⟨40000, rfl, hplus⟩,
    (convert_integral_iff hname _ _).2.mpr ⟨[-1, 40000], rfl, hlist⟩⟩

/-- A byte may have more than eight bits. -/
theorem byte_beyond_bits :
    convert "byte" "300" = .ok (.integer 300) ∧
      ¬∃ n, Numeral.Spells true (Text.trim "300".toList) n ∧ Numeral.HasBits true 8 n := by
  refine ⟨by rfl, ?_⟩
  rintro ⟨n, hspells, hbits⟩
  rw [show Text.trim "300".toList = ['3', '0', '0'] by decide,
    Numeral.spells_unsigned_iff (by simp) (by simp)] at hspells
  rw [hspells.2] at hbits
  revert hbits
  decide

end Value

end Componentry
