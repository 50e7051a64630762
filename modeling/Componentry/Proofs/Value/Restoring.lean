import Componentry.Proofs.Value.Spelling
import Componentry.Value.Render

/-!
# Reading what was shown

The text of a value is a literal, and reading it gives the value again, as long as the items of a
list can be told apart: the literal of a list is cut at every comma, also at those that stand
between the braces of an item. A value that was read from a text is of that sort, since each of
its items was read from a piece without commas. So showing what was read and reading it again
changes nothing.

A list that was not read may have items with commas. Its text is never read, because the braces
of a piece that begins such an item do not match.
-/

namespace Componentry.Value

/-! ## The text of a list -/

@[simp] theorem comma_ne_openBrace : (',' : Char) ≠ openBrace := by decide

@[simp] theorem comma_ne_closeBrace : (',' : Char) ≠ closeBrace := by decide

/-- The pieces between the commas that a list puts between its items. -/
def shownPieces : List Value → List (List Char)
  | [] => []
  | item :: rest => item.chars :: rest.map fun item => ' ' :: item.chars

theorem itemChars_cons_cons (item next : Value) (rest : List Value) :
    itemChars (item :: next :: rest) = item.chars ++ ',' :: ' ' :: itemChars (next :: rest) := by
  rw [itemChars]
  exact List.cons_ne_nil next rest

theorem itemChars_eq_intercalate (items : List Value) :
    itemChars items = [','].intercalate (shownPieces items) := by
  cases items with
  | nil => rfl
  | cons item rest =>
      rw [shownPieces]
      induction rest generalizing item with
      | nil => rw [itemChars, List.map_nil, List.intercalate_singleton]
      | cons next rest ih =>
          rw [itemChars_cons_cons, ih, List.map_cons, List.intercalate_cons_cons,
            List.intercalate_cons_cons_left, List.append_assoc, List.singleton_append]

/-- The text of the value can stand for an item of a list. -/
structure IsItem (v : Value) : Prop where
  tight : Text.IsTight v.chars
  comma : ',' ∉ v.chars

theorem forall₂_shownPieces {items : List Value} {R : List Char → Value → Prop}
    (hplain : ∀ v ∈ items, R v.chars v) (hspaced : ∀ v ∈ items, R (' ' :: v.chars) v) :
    List.Forall₂ R (shownPieces items) items := by
  cases items with
  | nil => exact .nil
  | cons item rest =>
      refine .cons (hplain item List.mem_cons_self) ?_
      rw [List.forall₂_map_left_iff, List.forall₂_same]
      exact fun v hv => hspaced v (List.mem_cons_of_mem item hv)

theorem comma_not_mem_shownPieces {items : List Value} (hcomma : ∀ v ∈ items, ',' ∉ v.chars) :
    ∀ piece ∈ shownPieces items, ',' ∉ piece := by
  intro piece hpiece
  obtain ⟨v, -, hnot⟩ := exists_of_mem_left (forall₂_shownPieces
    (R := fun piece _ => ',' ∉ piece) hcomma fun v hv => by simp [hcomma v hv]) hpiece
  exact hnot

theorem isTight_chars_list (items : List Value) : Text.IsTight (list items).chars := by
  rw [chars]
  exact .enclosed rfl rfl _

theorem trim_chars_list (items : List Value) :
    Text.trim (list items).chars = openBrace :: itemChars items ++ [closeBrace] := by
  rw [(isTight_chars_list items).trim_eq, chars]

/-- The text of a list is read item by item. -/
theorem ofChars_chars_list {items : List Value} {name : String} {item : TypeName}
    (hitems : ∀ v ∈ items, IsItem v ∧ ofChars v.chars item = .ok v)
    (hvisible : ∀ v, items = [v] → v.chars ≠ []) :
    ofChars (list items).chars (.array name item) = .ok (list items) := by
  refine ofChars_array_eq_ok_iff.mpr ⟨itemChars items, trim_chars_list items, items, rfl, ?_⟩
  split
  next hblank =>
    match items with
    | [] => rfl
    | [v] =>
        have htight := (hitems v List.mem_cons_self).1.tight
        rw [itemChars, ← Text.trim_eq_nil_iff, htight.trim_eq] at hblank
        exact absurd hblank (hvisible v rfl)
    | v :: next :: rest =>
        have hcomma : Text.isBlank ',' = true :=
          List.all_eq_true.mp hblank ',' (by simp [itemChars])
        cases hcomma
  next hvisible =>
    have hne : shownPieces items ≠ [] := by
      rintro hnil
      cases items with
      | nil => exact hvisible rfl
      | cons v rest => cases hnil
    rw [itemChars_eq_intercalate, Text.split_eq_splitOn, List.splitOn_intercalate ','
      (comma_not_mem_shownPieces fun v hv => (hitems v hv).1.comma) hne]
    have hread : ∀ v ∈ items, ofChars (Text.trim v.chars) item = .ok v := fun v hv => by
      rw [(hitems v hv).1.tight.trim_eq, (hitems v hv).2]
    exact forall₂_shownPieces hread hread

/-! ## Values that were read -/

namespace IsItem

theorem integer (n : Int) : IsItem (.integer n) := by
  have hspells : Numeral.Spells true (Numeral.ofInt n) n := Numeral.spells_ofInt (.inl rfl)
  exact ⟨.of_forall fun c hc => hspells.isBlank_eq_false hc,
    hspells.not_mem rfl (by decide) (by decide)⟩

theorem boolean (b : Bool) : IsItem (.boolean b) := by
  cases b with
  | false => exact ⟨.enclosed rfl rfl ['a', 'l', 's'], by decide⟩
  | true => exact ⟨.enclosed rfl rfl ['r', 'u'], by decide⟩

theorem list {items : List Value} (hcomma : ',' ∉ itemChars items) : IsItem (.list items) :=
  ⟨isTight_chars_list items, by simp [chars, hcomma]⟩

end IsItem

theorem ne_double_of_ofName? {name : String} {scalar : Scalar} (hname : name ∉ Scalar.double.names)
    (hscalar : Scalar.ofName? name = some scalar) : scalar ≠ .double := by
  rintro rfl
  exact hname (Scalar.ofName?_eq_some_iff.mp hscalar)

/-- What was read at a scalar type other than the doubles is shown as a literal of the type. -/
theorem read?_chars {scalar : Scalar} (hscalar : scalar ≠ .double) {raw : List Char} {v : Value}
    (hread : scalar.read? (Text.trim raw) = some v) :
    scalar.read? (Text.trim v.chars) = some v ∧ v.chars ≠ [] ∧ (',' ∉ raw → IsItem v) := by
  have hintegral : ∀ signed, (Scalar.integral signed).read? (Text.trim raw) = some v →
      (Scalar.integral signed).read? (Text.trim v.chars) = some v ∧ v.chars ≠ [] ∧
        (',' ∉ raw → IsItem v) := by
    intro signed hread
    obtain ⟨n, rfl, hmeans⟩ := Scalar.read?_integral_eq_some_iff.mp hread
    have hshown := Numeral.means_ofInt hmeans.2
    refine ⟨Scalar.read?_integral_eq_some_iff.mpr ⟨n, rfl, hshown⟩, fun hnil => ?_,
      fun _ => .integer n⟩
    have hvisible := hshown.visible
    rw [show Numeral.ofInt n = [] from hnil] at hvisible
    cases hvisible
  cases scalar with
  | signed => exact hintegral true hread
  | unsigned => exact hintegral false hread
  | double => exact absurd rfl hscalar
  | boolean =>
      have hboolean : ∃ b, v = .boolean b := by
        simp only [Scalar.read?] at hread
        split at hread
        · exact ⟨true, (Option.some.inj hread).symm⟩
        · split at hread
          · exact ⟨false, (Option.some.inj hread).symm⟩
          · cases hread
      obtain ⟨b, rfl⟩ := hboolean
      refine ⟨?_, ?_, fun _ => .boolean b⟩
      · cases b <;> rfl
      · cases b <;> decide
  | character =>
      have hcharacter : ∃ c, Text.trim raw = [c] ∧ v = .text (String.singleton c) := by
        simp only [Scalar.read?] at hread
        split at hread
        next c hliteral => exact ⟨c, hliteral, (Option.some.inj hread).symm⟩
        next => cases hread
      obtain ⟨c, hliteral, rfl⟩ := hcharacter
      have hchars : (text (String.singleton c)).chars = Text.trim raw := by
        rw [hliteral, chars, String.toList_singleton]
      rw [hchars, Text.trim_trim]
      refine ⟨hread, by simp [hliteral], fun hcomma => ⟨hchars ▸ Text.isTight_trim raw, ?_⟩⟩
      rw [hchars, Text.mem_trim_iff rfl]
      exact hcomma

/-- A base type whose name names no scalar keeps the text. -/
theorem ofChars_base_of_ofName?_eq_none {name : String} (hname : Scalar.ofName? name = none)
    (raw : List Char) : ofChars raw (.base name) = .ok (text (String.ofList raw)) := by
  simp only [ofChars, hname]

/-- What is read from a piece without commas can stand for an item. -/
theorem isItem_of_ofChars {type : TypeName} (htype : type.baseName ∉ Scalar.double.names)
    {raw : List Char} {v : Value} (htight : Text.IsTight raw) (hcomma : ',' ∉ raw)
    (hread : ofChars raw type = .ok v) : IsItem v ∧ (raw ≠ [] → v.chars ≠ []) := by
  induction type generalizing raw v with
  | base name =>
      cases hname : Scalar.ofName? name with
      | none =>
          rw [ofChars_base_of_ofName?_eq_none hname] at hread
          cases hread
          have hchars : (text (String.ofList raw)).chars = raw := String.toList_ofList
          exact ⟨⟨hchars.symm ▸ htight, hchars.symm ▸ hcomma⟩, hchars.symm ▸ id⟩
      | some scalar =>
          have hdouble := ne_double_of_ofName? htype hname
          obtain ⟨-, hne, hitem⟩ := read?_chars hdouble ((ofChars_base_eq_ok_iff hname).mp hread)
          exact ⟨hitem hcomma, fun _ => hne⟩
  | array name item ih =>
      obtain ⟨inner, hraw, items, rfl, hitems⟩ := ofChars_array_eq_ok_iff.mp hread
      have hinner : ',' ∉ inner := by
        rw [htight.trim_eq] at hraw
        intro hmem
        exact hcomma (by simp [hraw, hmem])
      refine ⟨.list ?_, fun _ => by simp [chars]⟩
      split at hitems
      next =>
        subst hitems
        exact List.not_mem_nil
      next =>
        rw [Text.split_eq_splitOn, List.splitOn_eq_singleton hinner,
          List.forall₂_cons_left_iff] at hitems
        obtain ⟨v, rest, hv, hrest, rfl⟩ := hitems
        rw [List.forall₂_nil_left_iff.mp hrest, itemChars]
        exact (ih htype (Text.isTight_trim inner) (by rwa [Text.mem_trim_iff rfl]) hv).1.comma

/-- Reading, showing and reading again gives the value that was read first. -/
theorem ofChars_chars_of_ofChars {type : TypeName} (htype : type.baseName ∉ Scalar.double.names)
    {raw : List Char} {v : Value} (hread : ofChars raw type = .ok v) :
    ofChars v.chars type = .ok v := by
  induction type generalizing raw v with
  | base name =>
      cases hname : Scalar.ofName? name with
      | none =>
          rw [ofChars_base_of_ofName?_eq_none hname] at hread ⊢
          cases hread
          rw [chars, String.toList_ofList]
      | some scalar =>
          have hdouble := ne_double_of_ofName? htype hname
          rw [ofChars_base_eq_ok_iff hname] at hread ⊢
          exact (read?_chars hdouble hread).1
  | array name item ih =>
      obtain ⟨inner, -, items, rfl, hitems⟩ := ofChars_array_eq_ok_iff.mp hread
      split at hitems
      next =>
        subst hitems
        exact ofChars_chars_list (by simp) (by simp)
      next hvisible =>
        have hitem : item.baseName ∉ Scalar.double.names := htype
        -- Each item was read from a piece, which has no comma.
        have hpiece : ∀ v ∈ items, ∃ piece ∈ Text.split ',' inner,
            ofChars (Text.trim piece) item = .ok v := fun v hv =>
          exists_of_mem_left hitems.flip hv
        refine ofChars_chars_list (fun v hv => ?_) ?_
        · obtain ⟨piece, hmem, hv⟩ := hpiece v hv
          have hcomma := Text.not_mem_trim_of_mem_split rfl hmem
          exact ⟨(isItem_of_ofChars hitem (Text.isTight_trim piece) hcomma hv).1, ih hitem hv⟩
        · -- A single item was read from the whole text between the braces, which is not blank.
          rintro v rfl
          obtain ⟨piece, rest, hv, hrest, hsplit⟩ := List.forall₂_cons_right_iff.mp hitems
          rw [List.forall₂_nil_right_iff.mp hrest] at hsplit
          have hinner : inner = piece := by
            rw [← Text.intercalate_split ',' inner, hsplit, List.intercalate_singleton]
          subst hinner
          have hmem : inner ∈ Text.split ',' inner := hsplit ▸ List.mem_cons_self
          have hcomma := Text.not_mem_trim_of_mem_split rfl hmem
          refine (isItem_of_ofChars hitem (Text.isTight_trim inner) hcomma hv).2 ?_
          rwa [Ne, Text.trim_eq_nil_iff]

/-- Showing what was converted to a type without doubles and converting it again changes nothing. -/
theorem convert_render_of_convert {typeName raw : String} {v : Value}
    (htype : (TypeName.read typeName).baseName ∉ Scalar.double.names)
    (hconvert : convert typeName raw = .ok v) : convert typeName v.render = .ok v := by
  rw [convert, render, String.toList_ofList]
  exact ofChars_chars_of_ofChars htype hconvert

/-- Items are padded, empty, or braces themselves. -/
theorem convert_render_of_convert_modes :
    (TypeName.read " com.acme.Mode []\t[]").baseName ∉ Scalar.double.names ∧
      ∃ v, convert " com.acme.Mode []\t[]" " \x7b\x7b fast \x7d, \x7b \x7d ,\x7b\x7b\x7d\x7d " =
        .ok v ∧ v.render = "\x7b\x7bfast\x7d, \x7b\x7d, \x7b\x7b\x7d\x7d" ∧
          convert " com.acme.Mode []\t[]" v.render = .ok v := by
  have htype : (TypeName.read " com.acme.Mode []\t[]").baseName ∉ Scalar.double.names := by decide
  have hconvert : convert " com.acme.Mode []\t[]"
      " \x7b\x7b fast \x7d, \x7b \x7d ,\x7b\x7b\x7d\x7d " =
        .ok (.list [.list [.text "fast"], .list [], .list [.text "\x7b"]]) := by
    rfl
  exact ⟨htype, _, hconvert, by decide, convert_render_of_convert htype hconvert⟩

/-! ## Values of array types -/

/-- The values of the integral types and of the truth values. -/
inductive IsLeaf : Scalar → Value → Prop
  | integer {signed : Bool} {n : Int} (hbits : Numeral.HasBits signed 64 n) :
      IsLeaf (.integral signed) (.integer n)
  | boolean (b : Bool) : IsLeaf .boolean (.boolean b)

/-- The values of the arrays of a scalar type with so many dimensions. -/
inductive OfDepth (scalar : Scalar) : Nat → Value → Prop
  | leaf {v : Value} (hleaf : IsLeaf scalar v) : OfDepth scalar 0 v
  | list {depth : Nat} {items : List Value} (hitems : ∀ v ∈ items, OfDepth scalar depth v) :
      OfDepth scalar (depth + 1) (.list items)

/-- No list in the value has two items or more. -/
def IsNarrow : Value → Prop
  | list [] => True
  | list [item] => item.IsNarrow
  | list (_ :: _ :: _) => False
  | _ => True

/-- No list among the items of the value, or inside them, has two items or more. -/
def HasNarrowItems : Value → Prop
  | list items => ∀ v ∈ items, v.IsNarrow
  | _ => True

theorem IsNarrow.hasNarrowItems {v : Value} (h : v.IsNarrow) : v.HasNarrowItems := by
  match v with
  | list [] => exact fun _ hmem => absurd hmem List.not_mem_nil
  | list [item] => exact List.forall_mem_singleton.mpr h
  | null | boolean _ | integer _ | double _ | text _ | object _ => trivial

namespace IsLeaf

variable {scalar : Scalar} {v : Value}

theorem isItem (h : IsLeaf scalar v) : IsItem v := by
  cases h with
  | integer hbits => exact .integer _
  | boolean b => exact .boolean b

theorem chars_ne_nil (h : IsLeaf scalar v) : v.chars ≠ [] := by
  cases h with
  | integer hbits => exact (Numeral.spells_ofInt hbits.sign).nonempty
  | boolean b => cases b <;> decide

theorem isNarrow (h : IsLeaf scalar v) : v.IsNarrow := by
  cases h <;> trivial

theorem read?_chars (h : IsLeaf scalar v) : scalar.read? (Text.trim v.chars) = some v := by
  cases h with
  | integer hbits =>
      exact Scalar.read?_integral_eq_some_iff.mpr ⟨_, rfl, Numeral.means_ofInt hbits⟩
  | boolean b => cases b <;> rfl

end IsLeaf

/-! ## Braces -/

/-- The text has as many closing braces as opening ones. -/
def IsBalanced (text : List Char) : Prop := text.count openBrace = text.count closeBrace

theorem isBalanced_of_not_mem {text : List Char} (hopen : openBrace ∉ text)
    (hclose : closeBrace ∉ text) : IsBalanced text := by
  rw [IsBalanced, List.count_eq_zero.mpr hopen, List.count_eq_zero.mpr hclose]

theorem isBalanced_trim_iff {text : List Char} : IsBalanced (Text.trim text) ↔ IsBalanced text := by
  rw [IsBalanced, IsBalanced, Text.count_trim rfl, Text.count_trim rfl]

theorem isBalanced_cons_space_iff {text : List Char} :
    IsBalanced (' ' :: text) ↔ IsBalanced text := by
  rw [← isBalanced_trim_iff, Text.trim_space, isBalanced_trim_iff]

theorem isBalanced_enclosed_iff {inner : List Char} :
    IsBalanced (openBrace :: inner ++ [closeBrace]) ↔ IsBalanced inner := by
  have hne : closeBrace ≠ openBrace := by decide
  simp [IsBalanced, hne, hne.symm]

theorem isBalanced_intercalate {pieces : List (List Char)}
    (hpieces : ∀ piece ∈ pieces, IsBalanced piece) : IsBalanced ([','].intercalate pieces) := by
  induction pieces with
  | nil => rfl
  | cons piece rest ih =>
      obtain ⟨hpiece, hrest⟩ := List.forall_mem_cons.mp hpieces
      cases rest with
      | nil => rwa [List.intercalate_singleton]
      | cons next rest =>
          have hbehind := ih hrest
          rw [IsBalanced] at hpiece hbehind ⊢
          simp [List.intercalate_cons_cons, hpiece, hbehind]

/-- The scalar types of integers and truth values. -/
def leafTypes : List Scalar := [.signed, .unsigned, .boolean]

/-- A literal of an integer or a truth value has no braces. -/
theorem isBalanced_of_read? {scalar : Scalar} (hscalar : scalar ∈ leafTypes) {text : List Char}
    {v : Value} (hread : scalar.read? (Text.trim text) = some v) : IsBalanced text := by
  have hintegral : ∀ signed, (Scalar.integral signed).read? (Text.trim text) = some v →
      IsBalanced text := by
    intro signed hread
    obtain ⟨n, rfl, hspells, -⟩ := Scalar.read?_integral_eq_some_iff.mp hread
    exact isBalanced_trim_iff.mp (isBalanced_of_not_mem
      (hspells.not_mem rfl (by decide) (by decide)) (hspells.not_mem rfl (by decide) (by decide)))
  cases scalar with
  | signed => exact hintegral true hread
  | unsigned => exact hintegral false hread
  | double => exact absurd hscalar (by decide)
  | character => exact absurd hscalar (by decide)
  | boolean =>
      have hlower : Text.lowerAscii (Text.trim text) = "true".toList ∨
          Text.lowerAscii (Text.trim text) = "false".toList := by
        simp only [Scalar.read?] at hread
        split at hread
        next htrue => exact .inl htrue
        next =>
          split at hread
          next hfalse => exact .inr hfalse
          next => cases hread
      -- A brace is its own lower case, and neither word has one.
      have hnot : ∀ brace : Char, brace.toLower = brace → brace ∉ "true".toList →
          brace ∉ "false".toList → brace ∉ Text.trim text := by
        intro brace hself htrue hfalse hmem
        have hmem' : brace ∈ Text.lowerAscii (Text.trim text) :=
          List.mem_map.mpr ⟨brace, hmem, hself⟩
        rcases hlower with hlower | hlower
        · exact htrue (hlower ▸ hmem')
        · exact hfalse (hlower ▸ hmem')
      exact isBalanced_trim_iff.mp (isBalanced_of_not_mem
        (hnot openBrace (by decide) (by decide) (by decide))
        (hnot closeBrace (by decide) (by decide) (by decide)))

theorem IsLeaf.isBalanced {scalar : Scalar} {v : Value} (h : IsLeaf scalar v) :
    IsBalanced v.chars := by
  have hscalar : scalar ∈ leafTypes := by
    cases h with
    | @integer signed n hbits => cases signed <;> decide
    | boolean b => decide
  exact isBalanced_of_read? hscalar h.read?_chars

/-- The pieces that are read at a type of balanced literals are balanced. -/
theorem isBalanced_of_mem_split {item : TypeName} {inner piece : List Char} {values : List Value}
    (hitem : ∀ raw v, ofChars raw item = .ok v → IsBalanced raw)
    (hvalues : if inner.all Text.isBlank then values = []
      else List.Forall₂ (fun piece value => ofChars (Text.trim piece) item = .ok value)
        (Text.split ',' inner) values)
    (hpiece : piece ∈ Text.split ',' inner) : IsBalanced piece := by
  split at hvalues
  next hblank =>
    have hnot : ∀ c, Text.isBlank c = false → c ∉ inner := by
      intro c hc hmem
      rw [List.all_eq_true.mp hblank c hmem] at hc
      cases hc
    rw [Text.split_eq_splitOn, List.splitOn_eq_singleton (hnot ',' rfl),
      List.mem_singleton] at hpiece
    subst hpiece
    exact isBalanced_of_not_mem (hnot openBrace rfl) (hnot closeBrace rfl)
  next =>
    obtain ⟨v, -, hv⟩ := exists_of_mem_left hvalues hpiece
    exact isBalanced_trim_iff.mp (hitem _ v hv)

/-- What is read at an array type of integers or truth values is balanced. -/
theorem isBalanced_of_ofChars {type : TypeName} {scalar : Scalar} (hscalar : scalar ∈ leafTypes)
    (hname : Scalar.ofName? type.baseName = some scalar) {raw : List Char} {v : Value}
    (hread : ofChars raw type = .ok v) : IsBalanced raw := by
  induction type generalizing raw v with
  | base name => exact isBalanced_of_read? hscalar ((ofChars_base_eq_ok_iff hname).mp hread)
  | array name item ih =>
      obtain ⟨inner, hraw, items, rfl, hitems⟩ := ofChars_array_eq_ok_iff.mp hread
      rw [← isBalanced_trim_iff, hraw, isBalanced_enclosed_iff,
        ← Text.intercalate_split ',' inner]
      exact isBalanced_intercalate fun piece hpiece =>
        isBalanced_of_mem_split (fun _ _ hv => ih hname hv) hitems hpiece

/-! ## Lists in lists -/

theorem exists_mem_shownPieces {items : List Value} {v : Value} (hv : v ∈ items) :
    ∃ piece ∈ shownPieces items, piece = v.chars ∨ piece = ' ' :: v.chars :=
  exists_of_mem_left
    (forall₂_shownPieces (R := fun piece v => piece = v.chars ∨ piece = ' ' :: v.chars)
      (fun _ _ => .inl rfl) (fun _ _ => .inr rfl)).flip hv

/-- What an item shows before its first comma is a piece of the text of the list. -/
theorem exists_mem_split_itemChars {items : List Value} {v : Value} (hv : v ∈ items)
    {first rest : List Char} (hchars : v.chars = first ++ ',' :: rest) (hnot : ',' ∉ first) :
    ∃ piece ∈ Text.split ',' (itemChars items), Text.trim piece = Text.trim first := by
  obtain ⟨shown, hshown, hform⟩ := exists_mem_shownPieces hv
  have hmem : ∀ begun, shown = begun ++ ',' :: rest → ',' ∉ begun →
      begun ∈ Text.split ',' (itemChars items) := by
    intro begun hbegun hnot
    rw [itemChars_eq_intercalate, Text.split_intercalate (List.ne_nil_of_mem hshown)]
    refine List.mem_flatMap.mpr ⟨shown, hshown, ?_⟩
    rw [hbegun, Text.split_append_cons, Text.split_eq_splitOn ',' begun,
      List.splitOn_eq_singleton hnot]
    exact List.mem_cons_self
  rcases hform with rfl | rfl
  · exact ⟨first, hmem first hchars hnot, rfl⟩
  · have hspaced : ' ' :: v.chars = ' ' :: first ++ ',' :: rest := by
      rw [hchars, List.cons_append]
    exact ⟨' ' :: first, hmem (' ' :: first) hspaced (by simp [hnot]), Text.trim_space first⟩

namespace OfDepth

variable {scalar : Scalar} {depth : Nat} {v : Value}

theorem isTight (h : OfDepth scalar depth v) : Text.IsTight v.chars := by
  cases h with
  | leaf hleaf => exact hleaf.isItem.tight
  | list hitems => exact isTight_chars_list _

theorem chars_ne_nil (h : OfDepth scalar depth v) : v.chars ≠ [] := by
  cases h with
  | leaf hleaf => exact hleaf.chars_ne_nil
  | list hitems => simp [chars]

/-- The commas that are shown are those of lists with two items or more. -/
theorem comma_not_mem_iff (h : OfDepth scalar depth v) : ',' ∉ v.chars ↔ v.IsNarrow := by
  induction h with
  | leaf hleaf => exact iff_of_true hleaf.isItem.comma hleaf.isNarrow
  | @list depth items hitems ih =>
      match items with
      | [] => simp [chars, itemChars, IsNarrow]
      | [v] => simp [chars, itemChars, IsNarrow, ih v]
      | v :: next :: rest => simp [chars, itemChars, IsNarrow]

theorem ofChars_chars (h : OfDepth scalar depth v) {name : String} (hname : name ∈ scalar.names)
    (hnarrow : v.HasNarrowItems) :
    ofChars v.chars (TypeName.read (TypeName.arrayOf name depth)) = .ok v := by
  induction h with
  | leaf hleaf =>
      rw [TypeName.arrayOf, Scalar.read_name name hname,
        ofChars_base_eq_ok_iff (Scalar.ofName?_eq_some_iff.mpr hname)]
      exact hleaf.read?_chars
  | @list depth items hitems ih =>
      rw [TypeName.arrayOf, TypeName.read_append_brackets]
      refine ofChars_chars_list (fun v hv => ⟨⟨(hitems v hv).isTight, ?_⟩, ?_⟩) ?_
      · exact (hitems v hv).comma_not_mem_iff.mpr (hnarrow v hv)
      · exact ih v hv (hnarrow v hv).hasNarrowItems
      · rintro v rfl
        exact (hitems v List.mem_cons_self).chars_ne_nil

theorem isBalanced (h : OfDepth scalar depth v) : IsBalanced v.chars := by
  induction h with
  | leaf hleaf => exact hleaf.isBalanced
  | @list depth items hitems ih =>
      rw [chars, isBalanced_enclosed_iff, itemChars_eq_intercalate]
      refine isBalanced_intercalate fun piece hpiece => ?_
      obtain ⟨v, -, hv⟩ := exists_of_mem_left (forall₂_shownPieces
        (R := fun piece _ => IsBalanced piece) ih fun v hv =>
          isBalanced_cons_space_iff.mpr (ih v hv)) hpiece
      exact hv

/-- Before the first comma of a list in a list more braces are opened than closed. -/
theorem exists_unbalanced_beginning (h : OfDepth scalar depth v) (hwide : ¬v.IsNarrow) :
    ∃ first rest, v.chars = first ++ ',' :: rest ∧ ',' ∉ first ∧
      first.count closeBrace < first.count openBrace := by
  have hbraces : openBrace ≠ closeBrace := by decide
  induction h with
  | leaf hleaf => exact absurd hleaf.isNarrow hwide
  | @list depth items hitems ih =>
      -- The brace of the list itself is open, whether its first item has the comma or ends at it.
      have hopened : ∀ {first behind : List Char}, itemChars items = first ++ ',' :: behind →
          ',' ∉ first → first.count closeBrace ≤ first.count openBrace →
          ∃ first rest, (Value.list items).chars = first ++ ',' :: rest ∧ ',' ∉ first ∧
            first.count closeBrace < first.count openBrace := by
        intro first behind hitem hnot hcount
        refine ⟨openBrace :: first, behind ++ [closeBrace], by simp [chars, hitem],
          by simp [hnot], ?_⟩
        rw [List.count_cons_of_ne hbraces, List.count_cons_self]
        omega
      match items with
      | [] => exact absurd trivial hwide
      | [v] =>
          obtain ⟨first, rest, hchars, hnot, hcount⟩ := ih v List.mem_cons_self hwide
          exact hopened (by rw [itemChars, hchars]) hnot hcount.le
      | v :: next :: rest =>
          have hv := hitems v List.mem_cons_self
          by_cases hnarrow : v.IsNarrow
          · have hnone := hv.comma_not_mem_iff.mpr hnarrow
            exact hopened (itemChars_cons_cons v next rest) hnone hv.isBalanced.ge
          · obtain ⟨first, behind, hchars, hnot, hcount⟩ := ih v List.mem_cons_self hnarrow
            have hitem : itemChars (v :: next :: rest) =
                first ++ ',' :: (behind ++ ',' :: ' ' :: itemChars (next :: rest)) := by
              rw [itemChars_cons_cons, hchars, List.append_assoc, List.cons_append]
            exact hopened hitem hnot hcount.le

/-- The text of lists in lists is not read, since a piece of it is not balanced. -/
theorem ofChars_chars_ne_ok (h : OfDepth scalar depth v) (hscalar : scalar ∈ leafTypes)
    {name : String} (hname : name ∈ scalar.names) (hwide : ¬v.HasNarrowItems) (w : Value) :
    ofChars v.chars (TypeName.read (TypeName.arrayOf name depth)) ≠ .ok w := by
  cases h with
  | leaf hleaf => exact absurd hleaf.isNarrow.hasNarrowItems hwide
  | @list depth items hitems =>
      obtain ⟨v, hv, hnarrow⟩ : ∃ v ∈ items, ¬v.IsNarrow := by
        simpa [HasNarrowItems] using hwide
      obtain ⟨first, rest, hchars, hnot, hcount⟩ :=
        (hitems v hv).exists_unbalanced_beginning hnarrow
      rw [TypeName.arrayOf, TypeName.read_append_brackets]
      intro hread
      obtain ⟨inner, hraw, values, rfl, hvalues⟩ := ofChars_array_eq_ok_iff.mp hread
      obtain rfl : inner = itemChars items := by
        rw [trim_chars_list] at hraw
        simpa using hraw.symm
      have hitem : ∀ raw v, ofChars raw (TypeName.read (TypeName.arrayOf name depth)) = .ok v →
          IsBalanced raw := fun _ _ =>
        isBalanced_of_ofChars hscalar (Scalar.ofName?_eq_some_iff.mpr
          ((Scalar.baseName_read_arrayOf hname depth).symm ▸ hname))
      obtain ⟨piece, hpiece, htrim⟩ := exists_mem_split_itemChars hv hchars hnot
      have hbalanced := isBalanced_of_mem_split hitem hvalues hpiece
      rw [← isBalanced_trim_iff, htrim, isBalanced_trim_iff] at hbalanced
      exact absurd hbalanced hcount.ne'

end OfDepth

/-- The text of an array of integers or truth values is read exactly if no list inside of it has
two items or more, and then as the array. -/
theorem convert_render_iff {scalar : Scalar} (hscalar : scalar ∈ leafTypes) {name : String}
    (hname : name ∈ scalar.names) {depth : Nat} {v : Value} (hv : OfDepth scalar depth v) :
    (v.HasNarrowItems → convert (TypeName.arrayOf name depth) v.render = .ok v) ∧
      (¬v.HasNarrowItems →
        ∃ failure, convert (TypeName.arrayOf name depth) v.render = .error failure) := by
  rw [convert, render, String.toList_ofList]
  refine ⟨hv.ofChars_chars hname, fun hwide => ?_⟩
  cases hread : ofChars v.chars (TypeName.read (TypeName.arrayOf name depth)) with
  | ok w => exact absurd hread (hv.ofChars_chars_ne_ok hscalar hname hwide w)
  | error failure => exact ⟨failure, rfl⟩

/-- The lists of a list have an item or none. -/
theorem convert_render_iff_narrow :
    Scalar.signed ∈ leafTypes ∧ "i64" ∈ Scalar.signed.names ∧
      ∃ v, OfDepth .signed 3 v ∧ v.HasNarrowItems ∧
        v.render = "\x7b\x7b\x7b-9223372036854775808\x7d\x7d, \x7b\x7d, \x7b\x7b\x7d\x7d\x7d" ∧
          convert "i64[][][]" v.render = .ok v := by
  have hleaf : OfDepth .signed 0 (.integer (-9223372036854775808)) :=
    .leaf (@IsLeaf.integer true _ (by decide))
  have hempty : ∀ depth, OfDepth .signed (depth + 1) (.list []) := fun _ => .list (by simp)
  have hv : OfDepth .signed 3 (.list [.list [.list [.integer (-9223372036854775808)]], .list [],
      .list [.list []]]) := by
    refine .list (List.forall_mem_cons.mpr ⟨?_, List.forall_mem_cons.mpr ⟨hempty 1, ?_⟩⟩)
    · exact .list (List.forall_mem_singleton.mpr (.list (List.forall_mem_singleton.mpr hleaf)))
    · exact List.forall_mem_singleton.mpr (.list (List.forall_mem_singleton.mpr (hempty 0)))
  have hnarrow : HasNarrowItems (.list [.list [.list [.integer (-9223372036854775808)]], .list [],
      .list [.list []]]) := by
    simp [HasNarrowItems, IsNarrow]
  have hname : "i64" ∈ Scalar.signed.names := by decide
  have htype : TypeName.arrayOf "i64" 3 = "i64[][][]" := by decide
  have hconvert := (convert_render_iff (by decide) hname hv).1 hnarrow
  rw [htype] at hconvert
  exact ⟨by decide, hname, _, hv, hnarrow, by decide +kernel, hconvert⟩

/-- An array of arrays is not read if one of these has two items. -/
theorem nested_list_cut :
    OfDepth .signed 2 (.list [.list [.integer 1, .integer 2], .list [.integer 3]]) ∧
      render (.list [.list [.integer 1, .integer 2], .list [.integer 3]]) =
        "\x7b\x7b1, 2\x7d, \x7b3\x7d\x7d" ∧
      convert "int[][]" "\x7b\x7b1, 2\x7d, \x7b3\x7d\x7d" = .error ⟨"\x7b1", "int[]"⟩ := by
  have hleaf : ∀ n : Int, Numeral.HasBits true 64 n → OfDepth .signed 0 (.integer n) :=
    fun _ hbits => .leaf (@IsLeaf.integer true _ hbits)
  have hpair : ∀ v ∈ [Value.integer 1, .integer 2], OfDepth .signed 0 v :=
    List.forall_mem_cons.mpr ⟨hleaf 1 (by decide),
      List.forall_mem_singleton.mpr (hleaf 2 (by decide))⟩
  have hthree : ∀ v ∈ [Value.integer 3], OfDepth .signed 0 v :=
    List.forall_mem_singleton.mpr (hleaf 3 (by decide))
  refine ⟨.list (List.forall_mem_cons.mpr ⟨.list hpair, ?_⟩), by decide +kernel, by rfl⟩
  exact List.forall_mem_singleton.mpr (.list hthree)

end Componentry.Value
