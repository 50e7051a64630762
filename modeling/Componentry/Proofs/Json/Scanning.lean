import Componentry.Json.Token
import Componentry.Json.Writer
import Mathlib.Tactic.IntervalCases

/-!
# Scanning what was written

The text of a document, compact or indented, is cut into the tokens of the document. Marks
and strings end by themselves. A word or a number ends before a delimiter, and whatever is
written behind one starts with a delimiter.

A string is read as it was written, whichever characters it has. An integer is read as it
was written if it has 64 bits.
-/

namespace Componentry.Json

/-! ## Numerals -/

theorem digitsValue_ofNat (n : Nat) : Decimal.digitsValue (Numeral.ofNat n) = n := by
  have hvalue : Nat.ofDigitChars 10 (Nat.toDigits 10 n) 0 = n := Nat.ofDigitChars_ten_toDigits
  simp only [Nat.ofDigitChars, Nat.mul_comm 10] at hvalue
  exact hvalue

theorem isDigit_of_mem_ofNat {n : Nat} {c : Char} (hmem : c ∈ Numeral.ofNat n) :
    c.isDigit = true :=
  Nat.isDigit_of_mem_toDigits (by decide) (by decide) hmem

/-- A numeral has no leading zero. -/
theorem head_ofNat_ne_zero {n : Nat} (hn : 0 < n) : (Numeral.ofNat n).head? ≠ some '0' := by
  induction n using Nat.strongRecOn with
  | ind n ih =>
      rw [Numeral.ofNat]
      by_cases hsmall : n < 10
      · rw [Nat.toDigits_of_lt_base hsmall]
        interval_cases n <;> decide
      · have hhead := ih (n / 10) (by omega) (by omega)
        rw [Nat.toDigits_of_base_le (by decide) (by omega)]
        cases hfirst : Numeral.ofNat (n / 10) with
        | nil => exact absurd hfirst Nat.toDigits_ne_nil
        | cons c rest =>
            rw [hfirst] at hhead
            rw [Numeral.ofNat] at hfirst
            simpa [hfirst] using hhead

theorem isWhole_ofNat (n : Nat) : isWhole (Numeral.ofNat n) = true := by
  by_cases hn : 0 < n
  · have hhead := head_ofNat_ne_zero hn
    have hdigits : (Numeral.ofNat n).all Char.isDigit = true :=
      List.all_eq_true.mpr fun c hmem => isDigit_of_mem_ofNat hmem
    cases hnumeral : Numeral.ofNat n with
    | nil => exact absurd hnumeral Nat.toDigits_ne_nil
    | cons c rest =>
        rw [hnumeral] at hhead hdigits
        unfold isWhole
        split <;> simp_all
  · have hzero : n = 0 := by omega
    subst hzero
    rfl

theorem spanDigits_of_digits {digits : List Char} (hdigits : ∀ c ∈ digits, c.isDigit = true) :
    Decimal.spanDigits digits = (digits, []) := by
  induction digits with
  | nil => rfl
  | cons c rest ih =>
      have hrest := ih fun d hd => hdigits d (List.mem_cons_of_mem c hd)
      simp only [Decimal.spanDigits, Prod.mk.injEq] at hrest ⊢
      simp [hdigits c List.mem_cons_self, hrest]

theorem spanDigits_ofNat (n : Nat) : Decimal.spanDigits (Numeral.ofNat n) = (Numeral.ofNat n, []) :=
  spanDigits_of_digits fun _ => isDigit_of_mem_ofNat

/-- The integer has 64 bits, with a sign or without. -/
def Fits (n : Int) : Prop :=
  -((Numeral.maxSigned : Int) + 1) ≤ n ∧ n ≤ (Numeral.maxUnsigned : Int)

/-- A numeral of 64 bits is the document of its integer. -/
theorem ofNumber?_ofInt {n : Int} (hn : Fits n) :
    ofNumber? (Numeral.ofInt n) = some (integer n) := by
  obtain ⟨hlow, hhigh⟩ := hn
  cases n with
  | ofNat n =>
      have hsize : n ≤ Numeral.maxUnsigned := Int.ofNat_le.mp hhigh
      have hread : ofNumber? (Numeral.ofNat n) = some (ofWhole false (Numeral.ofNat n)) := by
        have hsign : ∀ rest, Numeral.ofNat n ≠ '-' :: rest := by
          intro rest hsign
          have hdigit : ('-' : Char).isDigit = true :=
            isDigit_of_mem_ofNat (hsign ▸ List.mem_cons_self)
          exact absurd hdigit (by decide)
        unfold ofNumber?
        split
        next hmatch =>
          split at hmatch
          next hnumeral => exact absurd hnumeral (hsign _)
          next =>
            cases hmatch
            simp [spanDigits_ofNat, isWhole_ofNat]
      simp [Numeral.ofInt, hread, ofWhole, digitsValue_ofNat, hsize]
  | negSucc n =>
      have hsize : n ≤ Numeral.maxSigned := by
        rw [Int.negSucc_eq] at hlow
        exact Int.ofNat_le.mp (by omega)
      have hread : ofNumber? ('-' :: Numeral.ofNat (n + 1)) =
          some (ofWhole true (Numeral.ofNat (n + 1))) := by
        simp [ofNumber?, spanDigits_ofNat, isWhole_ofNat]
      simp [Numeral.ofInt, hread, ofWhole, digitsValue_ofNat, hsize, Int.negSucc_eq]

/-! ## Marks, words and numbers -/

/-- The character ends a word or a number. -/
def IsDelimiter (c : Char) : Prop := c.isLower = false ∧ isNumberChar c = false

/-- A text that can stand behind a word or a number. -/
def Delimits (rest : List Char) : Prop := ∀ c ∈ rest.head?, IsDelimiter c

theorem delimits_cons {c : Char} (hc : IsDelimiter c) (rest : List Char) : Delimits (c :: rest) := by
  intro d hd
  cases hd
  exact hc

/-- In front of a delimiter the characters are cut into the tokens. -/
def Spells (characters : List Char) (tokens : List Token) : Prop :=
  ∀ rest, Delimits rest →
    tokens? .between (characters ++ rest) = (tokens? .between rest).map (tokens ++ ·)

theorem tokens?_mark {c : Char} {tokens : List Token} (hmark : begin? c = some (tokens, .between))
    (rest : List Char) : tokens? .between (c :: rest) = (tokens? .between rest).map (tokens ++ ·) := by
  simp [tokens?, advance?, hmark, Option.map_eq_bind]

/-- A run of characters that belong together ends before a character that does not belong to
them, and gives one token. -/
theorem tokens?_run (mode : List Char → Mode) (belongs : Char → Bool)
    (document? : List Char → Option Json)
    (hadvance : ∀ done c, advance? (mode done) c =
      if belongs c then some ([], mode (c :: done))
      else (document? done.reverse).bind fun document =>
        (begin? c).map fun begun => (.scalar document :: begun.1, begun.2))
    (hfinish : ∀ done, finish? (mode done) =
      (document? done.reverse).map fun document => [.scalar document])
    {characters rest : List Char} (hcharacters : ∀ c ∈ characters, belongs c = true)
    (hrest : ∀ c ∈ rest.head?, belongs c = false) (done : List Char) :
    tokens? (mode done) (characters ++ rest) =
      (document? (done.reverse ++ characters)).bind fun document =>
        (tokens? .between rest).map (.scalar document :: ·) := by
  induction characters generalizing done with
  | nil =>
      cases rest with
      | nil =>
          rw [List.append_nil, List.append_nil, tokens?, hfinish]
          cases document? done.reverse <;> rfl
      | cons c rest =>
          have hc : belongs c = false := hrest c rfl
          rw [List.nil_append, List.append_nil, tokens?, hadvance, hc, tokens?, advance?]
          cases document? done.reverse with
          | none => rfl
          | some document =>
              cases begin? c with
              | none => rfl
              | some begun =>
                  cases hbehind : tokens? begun.2 rest <;> simp [hbehind]
  | cons c characters ih =>
      have hc : belongs c = true := hcharacters c List.mem_cons_self
      have hbehind := ih (fun d hd => hcharacters d (List.mem_cons_of_mem c hd)) (c :: done)
      rw [List.cons_append, tokens?, hadvance, if_pos hc]
      simp [hbehind]

theorem spells_word {c : Char} {letters : List Char} {document : Json}
    (hbegin : begin? c = some ([], .word [c])) (hletters : letters.all Char.isLower = true)
    (hdocument : ofWord? (c :: letters) = some document) :
    Spells (c :: letters) [.scalar document] := by
  intro rest hrest
  have hrun := tokens?_run .word Char.isLower ofWord?
    (fun done c => by cases hlower : c.isLower <;> simp [advance?, hlower, Option.map_eq_bind])
    (fun _ => rfl) (List.all_eq_true.mp hletters) (fun d hd => (hrest d hd).1) [c]
  simp [tokens?, advance?, hbegin, hrun, hdocument]

theorem spells_number {c : Char} {characters : List Char} {document : Json}
    (hbegin : begin? c = some ([], .number [c]))
    (hcharacters : ∀ d ∈ characters, isNumberChar d = true)
    (hdocument : ofNumber? (c :: characters) = some document) :
    Spells (c :: characters) [.scalar document] := by
  intro rest hrest
  have hrun := tokens?_run .number isNumberChar ofNumber?
    (fun done c => by cases hnumber : isNumberChar c <;> simp [advance?, hnumber, Option.map_eq_bind])
    (fun _ => rfl) hcharacters (fun d hd => (hrest d hd).2) [c]
  simp [tokens?, advance?, hbegin, hrun, hdocument]

/-! ## Strings -/

theorem hexValue?_hexDigit {n : Nat} (hn : n < 16) : hexValue? (hexDigit n) = some n := by
  interval_cases n <;> rfl

/-- The part of a string spells the character, whatever stands behind it. -/
def Piece.Means (piece : Piece) (c : Char) : Prop :=
  ∀ rest, join? (piece :: rest) = (join? rest).map (c :: ·)

theorem means_char (c : Char) : (Piece.char c).Means c := by
  intro rest
  rw [Piece.join?]

/-- A code unit below the surrogates does not wait for another one. -/
theorem means_unit {c : Char} (hsmall : c.toNat < 0xD800) : (Piece.unit c.toNat).Means c := by
  have hsingle : Piece.single? c.toNat = some c := by
    have hlow : ¬ (0xD800 ≤ c.toNat) := by omega
    simp [Piece.single?, hlow, Char.ofNat_toNat]
  have hpair : ∀ low, Piece.pair? c.toNat low = none := by
    intro low
    have hlow : ¬ (0xD800 ≤ c.toNat) := by omega
    simp [Piece.pair?, hlow]
  intro rest
  cases rest with
  | nil => simp [Piece.join?, hsingle]
  | cons head rest =>
      cases head with
      | char d => simp [Piece.join?, hsingle]
      | unit low => simp [Piece.join?, hsingle, hpair]

theorem tokens?_unit (pieces : List Piece) {high low : Nat} (hhigh : high < 16) (hlow : low < 16)
    (rest : List Char) :
    tokens? (.string pieces) (['\\', 'u', '0', '0', hexDigit high, hexDigit low] ++ rest) =
      tokens? (.string (.unit (high * 16 + low) :: pieces)) rest := by
  have hzero : hexValue? '0' = some 0 := rfl
  simp [tokens?, advance?, hzero, hexValue?_hexDigit hhigh, hexValue?_hexDigit hlow]

theorem tokens?_plain (pieces : List Piece) {c : Char} (hquote : c ≠ '"') (hescape : c ≠ '\\')
    (hcontrol : ¬ c.toNat < 0x20) (rest : List Char) :
    tokens? (.string pieces) (c :: rest) = tokens? (.string (.char c :: pieces)) rest := by
  have hadvance : advance? (.string pieces) c = some ([], .string (.char c :: pieces)) := by
    rw [advance?, if_neg hquote, if_neg hescape, if_neg hcontrol]
  simp [tokens?, hadvance]

/-- Whatever is written for a character inside a string is read as one part of it. -/
theorem tokens?_escape (c : Char) : ∃ piece : Piece, piece.Means c ∧
    ∀ pieces rest, tokens? (.string pieces) (escape c ++ rest) =
      tokens? (.string (piece :: pieces)) rest := by
  unfold escape
  split
  case h_8 hquote hescape _ _ _ _ _ =>
    by_cases hcontrol : c.toNat < 0x20
    · refine ⟨.unit c.toNat, means_unit (by omega), fun pieces rest => ?_⟩
      rw [if_pos hcontrol, tokens?_unit pieces (by omega) (by omega), Nat.div_add_mod']
    · refine ⟨.char c, means_char c, fun pieces rest => ?_⟩
      rw [if_neg hcontrol]
      exact tokens?_plain pieces hquote hescape hcontrol rest
  all_goals
    refine ⟨.char _, means_char _, fun pieces rest => ?_⟩
    simp [tokens?, advance?, escaped?]

/-- The characters of a string are read as parts that spell them. -/
theorem tokens?_characters (characters : List Char) : ∃ parts : List Piece,
    Piece.join? parts = some characters ∧
    ∀ pieces rest, tokens? (.string pieces) (characters.flatMap escape ++ rest) =
      tokens? (.string (parts.reverse ++ pieces)) rest := by
  induction characters with
  | nil => exact ⟨[], rfl, fun _ _ => rfl⟩
  | cons c characters ih =>
      obtain ⟨piece, hmeans, hpiece⟩ := tokens?_escape c
      obtain ⟨parts, hjoin, hparts⟩ := ih
      refine ⟨piece :: parts, ?_, fun pieces rest => ?_⟩
      · rw [hmeans, hjoin, Option.map_some]
      · rw [List.flatMap_cons, List.append_assoc, hpiece, hparts]
        simp

theorem tokens?_quote (s : String) (rest : List Char) :
    tokens? .between (quote s ++ rest) =
      (tokens? .between rest).map (.string (some s) :: ·) := by
  obtain ⟨parts, hjoin, hparts⟩ := tokens?_characters s.toList
  have hbegin : tokens? .between (quote s ++ rest) =
      tokens? (.string []) (s.toList.flatMap escape ++ '"' :: rest) := by
    simp [quote, tokens?, advance?, begin?]
  have hend : tokens? (.string parts.reverse) ('"' :: rest) =
      (tokens? .between rest).map (.string (some s) :: ·) := by
    simp [tokens?, advance?, hjoin, Option.map_eq_bind]
  rw [hbegin, hparts, List.append_nil, hend]

/-! ## Documents -/

mutual

/-- The document has no doubles and stands for a value, and its integers have 64 bits. -/
def Plain : Json → Prop
  | integer n => Fits n
  | double _ => False
  | unusable => False
  | array items => PlainItems items
  | object members => PlainMembers members
  | _ => True

def PlainItems : List Json → Prop
  | [] => True
  | item :: rest => Plain item ∧ PlainItems rest

def PlainMembers : List (String × Json) → Prop
  | [] => True
  | (_, member) :: rest => Plain member ∧ PlainMembers rest

end

mutual

/-- The tokens of a document. -/
def tokensOf : Json → List Token
  | array items => .openArray :: tokensOfItems items ++ [.closeArray]
  | object members => .openObject :: tokensOfMembers members ++ [.closeObject]
  | string s => [.string (some s)]
  | document => [.scalar document]

def tokensOfItems : List Json → List Token
  | [] => []
  | [item] => tokensOf item
  | item :: rest => tokensOf item ++ .comma :: tokensOfItems rest

def tokensOfMembers : List (String × Json) → List Token
  | [] => []
  | [(name, member)] => .string (some name) :: .colon :: tokensOf member
  | (name, member) :: rest =>
      .string (some name) :: .colon :: tokensOf member ++ .comma :: tokensOfMembers rest

end

theorem spells_nil : Spells [] [] := by
  intro rest _
  cases hrest : tokens? .between rest <;> simp [hrest]

theorem Spells.mark {characters : List Char} {tokens : List Token} {c : Char} {token : Token}
    (hmark : begin? c = some ([token], .between)) (h : Spells characters tokens) :
    Spells (c :: characters) (token :: tokens) := by
  intro rest hrest
  rw [List.cons_append, tokens?_mark hmark, h rest hrest]
  cases tokens? .between rest <;> simp

theorem Spells.blank {characters : List Char} {tokens : List Token} {c : Char}
    (hblank : begin? c = some ([], .between)) (h : Spells characters tokens) :
    Spells (c :: characters) tokens := by
  intro rest hrest
  rw [List.cons_append, tokens?_mark hblank, h rest hrest]
  cases tokens? .between rest <;> simp

theorem Spells.quote {characters : List Char} {tokens : List Token} (s : String)
    (h : Spells characters tokens) :
    Spells (Json.quote s ++ characters) (.string (some s) :: tokens) := by
  intro rest hrest
  rw [List.append_assoc, tokens?_quote, h rest hrest]
  cases tokens? .between rest <;> simp

/-- What stands behind a document starts with a character that ends it. -/
theorem Spells.before {characters behind : List Char} {tokens tokens' : List Token} {c : Char}
    (h : Spells characters tokens) (hc : IsDelimiter c) (hbehind : Spells (c :: behind) tokens') :
    Spells (characters ++ c :: behind) (tokens ++ tokens') := by
  intro rest hrest
  rw [List.append_assoc, List.cons_append, h _ (delimits_cons hc _), ← List.cons_append,
    hbehind rest hrest]
  cases tokens? .between rest <;> simp

theorem spells_integer {n : Int} (hn : Fits n) :
    Spells (Numeral.ofInt n) [.scalar (integer n)] := by
  have hdigits : ∀ m, ∀ c ∈ Numeral.ofNat m, isNumberChar c = true := by
    intro m c hmem
    simp [isNumberChar, isDigit_of_mem_ofNat hmem]
  have hread := ofNumber?_ofInt hn
  cases n with
  | negSucc n => exact spells_number rfl (hdigits (n + 1)) hread
  | ofNat n =>
      rw [Numeral.ofInt] at hread ⊢
      cases hnumeral : Numeral.ofNat n with
      | nil => exact absurd hnumeral Nat.toDigits_ne_nil
      | cons c characters =>
          rw [hnumeral] at hread
          have hc : c.isDigit = true := isDigit_of_mem_ofNat (hnumeral ▸ List.mem_cons_self)
          have hbegin : begin? c = some ([], .number [c]) := by
            unfold begin?
            split <;> simp_all
          refine spells_number hbegin (fun d hd => hdigits n d ?_) hread
          rw [hnumeral]
          exact List.mem_cons_of_mem c hd

/-- A document without items and members is spelled by its text. -/
theorem spells_scalarText {document : Json} (hplain : document.Plain)
    (harray : ∀ items, document = array items → items = [])
    (hobject : ∀ members, document = object members → members = []) :
    Spells (scalarText document) (tokensOf document) := by
  cases document with
  | null => exact spells_word rfl rfl rfl
  | boolean b =>
      cases b with
      | true => exact spells_word rfl rfl rfl
      | false => exact spells_word rfl rfl rfl
  | integer n => exact spells_integer hplain
  | double x => exact absurd hplain id
  | string s =>
      have hquote := spells_nil.quote s
      rwa [List.append_nil] at hquote
  | array items =>
      cases harray items rfl
      exact (spells_nil.mark rfl).mark rfl
  | object members =>
      cases hobject members rfl
      exact (spells_nil.mark rfl).mark rfl
  | unusable => exact absurd hplain id

theorem isDelimiter_comma : IsDelimiter ',' := ⟨rfl, rfl⟩

theorem isDelimiter_closeArray : IsDelimiter ']' := ⟨rfl, rfl⟩

theorem isDelimiter_closeObject : IsDelimiter '\x7d' := ⟨rfl, rfl⟩

theorem isDelimiter_newLine : IsDelimiter '\n' := ⟨rfl, rfl⟩

mutual

/-- The compact text of a document spells it. -/
theorem spells_compactChars : ∀ document : Json, document.Plain →
    Spells (compactChars document) (tokensOf document)
  | array items, hplain => by
      have hitems := spells_compactItems items hplain
      exact (hitems.before isDelimiter_closeArray (spells_nil.mark rfl)).mark rfl
  | object members, hplain => by
      have hmembers := spells_compactMembers members hplain
      exact (hmembers.before isDelimiter_closeObject (spells_nil.mark rfl)).mark rfl
  | null, hplain => spells_scalarText hplain (by simp) (by simp)
  | boolean b, hplain => spells_scalarText hplain (by simp) (by simp)
  | integer n, hplain => spells_scalarText hplain (by simp) (by simp)
  | double x, hplain => absurd hplain id
  | string s, hplain => spells_scalarText hplain (by simp) (by simp)
  | unusable, hplain => absurd hplain id

theorem spells_compactItems : ∀ items : List Json, PlainItems items →
    Spells (compactItems items) (tokensOfItems items)
  | [], _ => spells_nil
  | [item], hplain => spells_compactChars item hplain.1
  | item :: item' :: rest, hplain => by
      have hrest := spells_compactItems (item' :: rest) hplain.2
      exact (spells_compactChars item hplain.1).before isDelimiter_comma (hrest.mark rfl)

theorem spells_compactMembers : ∀ members : List (String × Json), PlainMembers members →
    Spells (compactMembers members) (tokensOfMembers members)
  | [], _ => spells_nil
  | [(name, member)], hplain => by
      have hmember := spells_compactChars member hplain.1
      have hnamed : Spells (':' :: compactChars member) (.colon :: tokensOf member) :=
        hmember.mark rfl
      exact hnamed.quote name
  | (name, member) :: member' :: rest, hplain => by
      have hrest := spells_compactMembers (member' :: rest) hplain.2
      have hmember := (spells_compactChars member hplain.1).before isDelimiter_comma
        (hrest.mark rfl)
      have hnamed := (hmember.mark (c := ':') rfl).quote name
      simpa [compactMembers, tokensOfMembers] using hnamed

end

/-- A new line is passed over. -/
theorem Spells.newLine {characters : List Char} {tokens : List Token} (indent : Nat)
    (h : Spells characters tokens) : Spells (Json.newLine indent ++ characters) tokens := by
  have hblanks : ∀ n, Spells (List.replicate n ' ' ++ characters) tokens := by
    intro n
    induction n with
    | zero => exact h
    | succ n ih =>
        rw [List.replicate_succ]
        exact ih.blank rfl
  exact (hblanks (2 * indent)).blank rfl

mutual

/-- The indented text of a document spells it. -/
theorem spells_indentedChars (indent : Nat) : ∀ document : Json, document.Plain →
    Spells (indentedChars indent document) (tokensOf document)
  | array [], hplain => spells_scalarText hplain (by simp) (by simp)
  | array (item :: rest), hplain => by
      have hitems := spells_indentedItems (indent + 1) (item :: rest) hplain
      have hclose : Spells [']'] [.closeArray] := spells_nil.mark rfl
      have hclosed := hitems.before isDelimiter_newLine (hclose.newLine indent)
      simpa [indentedChars, tokensOf, newLine] using hclosed.mark (c := '[') rfl
  | object [], hplain => spells_scalarText hplain (by simp) (by simp)
  | object (member :: rest), hplain => by
      have hmembers := spells_indentedMembers (indent + 1) (member :: rest) hplain
      have hclose : Spells ['\x7d'] [.closeObject] := spells_nil.mark rfl
      have hclosed := hmembers.before isDelimiter_newLine (hclose.newLine indent)
      simpa [indentedChars, tokensOf, newLine] using hclosed.mark (c := '\x7b') rfl
  | null, hplain => spells_scalarText hplain (by simp) (by simp)
  | boolean b, hplain => spells_scalarText hplain (by simp) (by simp)
  | integer n, hplain => spells_scalarText hplain (by simp) (by simp)
  | double x, hplain => absurd hplain id
  | string s, hplain => spells_scalarText hplain (by simp) (by simp)
  | unusable, hplain => absurd hplain id

theorem spells_indentedItems (indent : Nat) : ∀ items : List Json, PlainItems items →
    Spells (indentedItems indent items) (tokensOfItems items)
  | [], _ => spells_nil
  | [item], hplain => (spells_indentedChars indent item hplain.1).newLine indent
  | item :: item' :: rest, hplain => by
      have hrest := spells_indentedItems indent (item' :: rest) hplain.2
      have hitem := ((spells_indentedChars indent item hplain.1).newLine indent).before
        isDelimiter_comma (hrest.mark rfl)
      simpa [indentedItems, tokensOfItems] using hitem

theorem spells_indentedMembers (indent : Nat) : ∀ members : List (String × Json),
    PlainMembers members → Spells (indentedMembers indent members) (tokensOfMembers members)
  | [], _ => spells_nil
  | [(name, member)], hplain => by
      have hmember := (spells_indentedChars indent member hplain.1).blank (c := ' ') rfl
      have hnamed := ((hmember.mark (c := ':') rfl).quote name).newLine indent
      simpa [indentedMembers, tokensOfMembers] using hnamed
  | (name, member) :: member' :: rest, hplain => by
      have hrest := spells_indentedMembers indent (member' :: rest) hplain.2
      have hmember := ((spells_indentedChars indent member hplain.1).before isDelimiter_comma
        (hrest.mark rfl)).blank (c := ' ') rfl
      have hnamed := ((hmember.mark (c := ':') rfl).quote name).newLine indent
      simpa [indentedMembers, tokensOfMembers] using hnamed

end

end Componentry.Json
