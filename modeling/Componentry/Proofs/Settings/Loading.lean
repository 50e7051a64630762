import Componentry.Proofs.Value.Spelling
import Componentry.Settings.Sources

/-!
# Variables read one by one, and as a table

Both ways of reading variables give the same settings where the table has under the name of
each setting the text of its variable, if there is one. So it is with names in capitals, since
these are determined by the keys that they set, unless a key reaches into a setting: the entry
then is an object or an array, which no setting can be.

What remains is the capacity. In the table it may be given by a word, which is no numeral. A
word for zero makes no difference, since there is no capacity of zero; a word for one does.
-/

namespace Componentry

theorem Except.toOption_bind {ε α β : Type} (x : Except ε α) (f : α → Except ε β) :
    (x >>= f).toOption = x.toOption.bind fun a => (f a).toOption := by
  cases x <;> rfl

namespace Settings

/-! ## Places of keys -/

/-- A name goes on as long as its characters do. -/
theorem foldlM_read?_name (chars : List Char) :
    chars.foldlM KeyReading.read? .name =
      (chars.dropWhile KeyReading.isNameChar).foldlM KeyReading.read? .name := by
  induction chars with
  | nil => rfl
  | cons c rest ih =>
      by_cases hc : KeyReading.isNameChar c = true
      · rw [List.dropWhile_cons_of_pos hc, ← ih, List.foldlM_cons, KeyReading.read?, if_pos hc]
        rfl
      · rw [List.dropWhile_cons_of_neg hc]

/-- In a key that follows the rules there is nothing behind the name, or a further step. -/
theorem dropWhile_isNameChar_of_followsRules {key : List Char} (hrules : followsRules key = true) :
    key.dropWhile KeyReading.isNameChar = [] ∨
      ∃ rest, key.dropWhile KeyReading.isNameChar = '.' :: rest ∨
        key.dropWhile KeyReading.isNameChar = '[' :: rest := by
  cases key with
  | nil => exact .inl rfl
  | cons first rest =>
      rw [followsRules, List.foldlM_cons, KeyReading.read?] at hrules
      by_cases hfirst : KeyReading.isNameChar first = true
      · rw [if_pos hfirst, Option.bind_eq_bind, Option.bind_some, foldlM_read?_name] at hrules
        rw [List.dropWhile_cons_of_pos hfirst]
        cases hbehind : rest.dropWhile KeyReading.isNameChar with
        | nil => exact .inl rfl
        | cons c behind =>
            have hc := List.head?_dropWhile_not KeyReading.isNameChar rest
            rw [hbehind] at hc hrules
            rw [List.foldlM_cons, KeyReading.read?, if_neg (by simpa using hc),
              KeyReading.furtherStep?] at hrules
            refine .inr ⟨behind, ?_⟩
            by_cases hpoint : c = '.'
            · exact .inl (hpoint ▸ rfl)
            · rw [if_neg hpoint] at hrules
              by_cases hbracket : c = '['
              · exact .inr (hbracket ▸ rfl)
              · rw [if_neg hbracket] at hrules
                exact absurd hrules Bool.false_ne_true
      · rw [if_neg hfirst] at hrules
        exact absurd hrules Bool.false_ne_true

/-- A key that concerns an entry as a whole is its name. -/
theorem eq_of_ofKey_eq_entry {key name : String} (hplace : Place.ofKey key = .entry name) :
    key = name := by
  by_cases hrules : followsRules key.toList = true
  · rw [Place.ofKey, if_pos hrules] at hplace
    rcases dropWhile_isNameChar_of_followsRules hrules with hnone | ⟨rest, hpoint | hbracket⟩
    · have hall : key.toList.takeWhile KeyReading.isNameChar = key.toList := by
        have hparts :=
          List.takeWhile_append_dropWhile (p := KeyReading.isNameChar) (l := key.toList)
        rwa [hnone, List.append_nil] at hparts
      rw [hnone, hall, String.ofList_toList] at hplace
      exact Place.entry.inj hplace
    · simp only [hpoint, reduceCtorEq] at hplace
    · simp only [hbracket, reduceCtorEq] at hplace
  · rw [Place.ofKey_of_not_followsRules (Bool.not_eq_true _ ▸ hrules)] at hplace
    exact Place.entry.inj hplace

namespace Place

/-- The name of the entry that a place is in. -/
def entryName : Place → String
  | entry name => name
  | member name => name
  | item name => name

/-- What the entry becomes if a text is set at the place. -/
def holding (text : String) : Place → Value
  | entry _ => .text text
  | member _ => .object []
  | item _ => .list []

end Place

theorem Table.set_text (table : Table) (key text : String) :
    table.set key (.text text) =
      table.insert (Place.ofKey key).entryName ((Place.ofKey key).holding text) := by
  unfold Table.set
  cases Place.ofKey key <;> rfl

/-! ## Keys of variables -/

/-- The key that a variable sets. -/
def variableKey? (name : String) : Option String :=
  let key := (lowerKey name).toList
  if variableStart.isPrefixOf key then some (String.ofList (key.drop variableStart.length))
  else none

theorem variableEntry?_eq_map (name text : String) :
    variableEntry? name text = (variableKey? name).map fun key => (key, .text text) := by
  rw [variableKey?, variableEntry?]
  split <;> rfl

theorem variableKey?_eq_some_iff {name key : String} :
    variableKey? name = some key ↔ (lowerKey name).toList = variableStart ++ key.toList := by
  simp only [variableKey?, List.isPrefixOf_iff_prefix]
  constructor
  · intro hkey
    split at hkey
    next hprefix =>
      rw [← Option.some.inj hkey, String.toList_ofList, List.prefix_iff_eq_append.mp hprefix]
    next => cases hkey
  · intro hkey
    rw [if_pos ⟨key.toList, hkey.symm⟩, hkey, List.drop_left, String.ofList_toList]

/-- The place that a variable sets. -/
def variablePlace? (name : String) : Option Place := (variableKey? name).map Place.ofKey

/-- The name of a variable reaches into an entry. -/
def ReachesInto (name entry : String) : Prop :=
  variablePlace? name = some (.member entry) ∨ variablePlace? name = some (.item entry)

instance (name entry : String) : Decidable (ReachesInto name entry) :=
  inferInstanceAs (Decidable (_ ∨ _))

theorem ReachesInto.exists_place {name entry : String} (hreaches : ReachesInto name entry) :
    ∃ place, variablePlace? name = some place ∧ place.entryName = entry := by
  rcases hreaches with hplace | hplace
  · exact ⟨_, hplace, rfl⟩
  · exact ⟨_, hplace, rfl⟩

/-- The name of the variable that is read under a key: the key in capitals. -/
def variableName (key : String) : String :=
  String.ofList ((variableStart ++ key.toList).map Char.toUpper)

/-- There is no small letter in the name, and no capital whose small letter is another one's:
such is the sign of the kelvin. -/
def IsCapital (name : String) : Prop := ∀ c ∈ name.toList, c.isLower = false ∧ c ≠ '\u212a'

instance (name : String) : Decidable (IsCapital name) :=
  List.decidableBAll _ name.toList

theorem toLower_eq_self {c : Char} (hcapital : ¬('A'.val ≤ c.val ∧ c.val ≤ 'Z'.val)) :
    c.toLower = c :=
  dif_neg hcapital

theorem toUpper_toLower {c : Char} (hsmall : c.isLower = false) : c.toLower.toUpper = c := by
  by_cases hcapital : 'A'.val ≤ c.val ∧ c.val ≤ 'Z'.val
  · have hletters : ∀ k < 26, (Char.ofNat (65 + k)).toLower.toUpper = Char.ofNat (65 + k) := by
      decide
    have hrange : 65 ≤ c.toNat ∧ c.toNat ≤ 90 := by
      simpa [UInt32.le_iff_toNat_le] using hcapital
    obtain ⟨k, hk⟩ := Nat.exists_eq_add_of_le hrange.1
    rw [← Char.ofNat_toNat c, hk]
    exact hletters k (by omega)
  · have hbounds : (decide ('a'.val ≤ c.val) && decide (c.val ≤ 'z'.val)) = false := hsmall
    rw [toLower_eq_self hcapital]
    exact dif_neg (by simpa using hbounds)

/-- A name in capitals can be told from its key. -/
theorem eq_variableName {name key : String} (hcapital : IsCapital name)
    (hkey : variableKey? name = some key) : name = variableName key := by
  have hraise : (name.toList.map lowerKeyChar).map Char.toUpper = name.toList := by
    rw [List.map_map]
    refine (List.map_congr_left fun c hc => ?_).trans (List.map_id name.toList)
    rw [Function.comp_apply, lowerKeyChar, if_neg (hcapital c hc).2,
      toUpper_toLower (hcapital c hc).1, id]
  rw [variableKey?_eq_some_iff, lowerKey, String.toList_ofList] at hkey
  rw [variableName, ← hkey, hraise, String.ofList_toList]

/-! ## The table of variables -/

/-- The table that variables alone make. -/
def variableTable (vars : Variables) : Table :=
  Table.setAll Dictionary.empty (variableEntries vars)

/-- The entry of the table that a variable writes. -/
def slot? (entry : String × String) : Option (String × Value) :=
  (variablePlace? entry.1).map fun place => (place.entryName, place.holding entry.2)

theorem variableTable_eq_ofList (vars : Variables) :
    variableTable vars = Dictionary.ofList (vars.entries.filterMap slot?) := by
  have hfold : ∀ (entries : List (String × String)) (table : Table),
      table.setAll (entries.filterMap fun entry => variableEntry? entry.1 entry.2) =
        table.insertAll (entries.filterMap slot?) := by
    intro entries
    induction entries with
    | nil => exact fun _ => rfl
    | cons entry rest ih =>
        intro table
        rw [List.filterMap_cons, List.filterMap_cons, slot?, variablePlace?,
          variableEntry?_eq_map]
        cases variableKey? entry.1 with
        | none => exact ih table
        | some key =>
            simp only [Option.map_some, Table.setAll, Dictionary.insertAll, List.foldl_cons]
            rw [Table.set_text]
            exact ih _
  exact hfold vars.entries Dictionary.empty

theorem mem_slots_iff {vars : Variables} {entry : String × Value} :
    entry ∈ vars.entries.filterMap slot? ↔
      ∃ name text place, vars.get? name = some text ∧ variablePlace? name = some place ∧
        (place.entryName, place.holding text) = entry := by
  simp only [List.mem_filterMap, Prod.exists, Dictionary.mem_entries_iff, slot?,
    Option.map_eq_some_iff, exists_and_left]

/-- The written names of the settings. -/
def settingKeys : List String :=
  [specificationKey, pidKey, identityKeyKey, capacityKey, logLevelKey]

theorem variablePlace?_variableName {key : String} (hkey : key ∈ settingKeys) :
    variablePlace? (variableName key) = some (.entry key) := by
  have hlower : ∀ key ∈ settingKeys,
      ((variableStart ++ key.toList).map Char.toUpper).map lowerKeyChar =
        variableStart ++ key.toList := by
    decide +kernel
  have hplace : ∀ key ∈ settingKeys, Place.ofKey key = .entry key := by decide +kernel
  have hname : variableKey? (variableName key) = some key := by
    rw [variableKey?_eq_some_iff, lowerKey, variableName, String.toList_ofList,
      String.toList_ofList, hlower key hkey]
  rw [variablePlace?, hname, Option.map_some, hplace key hkey]

theorem variableName_inj {key other : String} (hkey : key ∈ settingKeys)
    (hother : other ∈ settingKeys) (heq : variableName key = variableName other) : key = other := by
  have hplace := variablePlace?_variableName hkey
  rw [heq, variablePlace?_variableName hother] at hplace
  exact (Place.entry.inj (Option.some.inj hplace)).symm

/-- The variables that set places of the table are named in capitals. -/
def HasCapitalNames (vars : Variables) : Prop :=
  ∀ name ∈ vars.keys, variableStart <+: (lowerKey name).toList → IsCapital name

instance (vars : Variables) : Decidable (HasCapitalNames vars) :=
  List.decidableBAll _ vars.keys

section Table

variable {vars : Variables}

/-- Only one name in capitals sets an entry as a whole. -/
theorem HasCapitalNames.eq_variableName (hcapitals : HasCapitalNames vars) {name key text : String}
    (htext : vars.get? name = some text) (hplace : variablePlace? name = some (.entry key)) :
    name = variableName key := by
  obtain ⟨k, hk, hentry⟩ := Option.map_eq_some_iff.mp hplace
  rw [eq_of_ofKey_eq_entry hentry] at hk
  have hstart : variableStart <+: (lowerKey name).toList :=
    ⟨key.toList, (variableKey?_eq_some_iff.mp hk).symm⟩
  have hname := Dictionary.mem_keys_iff_exists.mpr ⟨text, htext⟩
  exact Settings.eq_variableName (hcapitals name hname hstart) hk

/-- A setting that is not reached into has its variable's text in the table. -/
theorem HasCapitalNames.get?_variableTable (hcapitals : HasCapitalNames vars) {key : String}
    (hkey : key ∈ settingKeys) (hwhole : ∀ name ∈ vars.keys, ¬ReachesInto name key) :
    (variableTable vars).get? key = (vars.get? (variableName key)).map .text := by
  have hslot : ∀ value, (key, value) ∈ vars.entries.filterMap slot? →
      (vars.get? (variableName key)).map .text = some value := by
    intro value hmem
    obtain ⟨name, text, place, htext, hplace, heq⟩ := mem_slots_iff.mp hmem
    obtain ⟨rfl, rfl⟩ := Prod.mk.inj heq
    have hname := Dictionary.mem_keys_iff_exists.mpr ⟨text, htext⟩
    -- A name that sets the entry as a whole is the one of the variable that is read.
    cases place with
    | entry key =>
        rw [Place.entryName, ← hcapitals.eq_variableName htext hplace, htext]
        rfl
    | member key => exact absurd (.inl hplace) (hwhole name hname)
    | item key => exact absurd (.inr hplace) (hwhole name hname)
  rw [variableTable_eq_ofList]
  cases hvalue : (Dictionary.ofList (vars.entries.filterMap slot?)).get? key with
  | some value => exact (hslot value (Dictionary.get?_ofList_eq_some hvalue)).symm
  | none =>
      cases htext : vars.get? (variableName key) with
      | none => rfl
      | some text =>
          have hmem := mem_slots_iff.mpr
            ⟨_, text, _, htext, variablePlace?_variableName hkey, rfl⟩
          exact absurd rfl (Dictionary.get?_ofList_eq_none_iff.mp hvalue _ hmem)

/-- A setting that is reached into, and has no variable of its own, is no scalar. -/
theorem HasCapitalNames.get?_variableTable_of_reachesInto (hcapitals : HasCapitalNames vars)
    {key name : String} (hname : name ∈ vars.keys) (hreaches : ReachesInto name key)
    (hunnamed : variableName key ∉ vars.keys) :
    (variableTable vars).get? key = some (.object []) ∨
      (variableTable vars).get? key = some (.list []) := by
  rw [variableTable_eq_ofList]
  cases hvalue : (Dictionary.ofList (vars.entries.filterMap slot?)).get? key with
  | none =>
      obtain ⟨text, htext⟩ := Dictionary.mem_keys_iff_exists.mp hname
      obtain ⟨place, hplace, hentry⟩ := hreaches.exists_place
      have hmem := mem_slots_iff.mpr ⟨_, text, _, htext, hplace, rfl⟩
      exact absurd hentry (Dictionary.get?_ofList_eq_none_iff.mp hvalue _ hmem)
  | some value =>
      obtain ⟨other, text, place, htext, hplace, heq⟩ :=
        mem_slots_iff.mp (Dictionary.get?_ofList_eq_some hvalue)
      obtain ⟨rfl, rfl⟩ := Prod.mk.inj heq
      cases place with
      | entry key =>
          rw [hcapitals.eq_variableName htext hplace] at htext
          exact absurd (Dictionary.mem_keys_iff_exists.mpr ⟨text, htext⟩) hunnamed
      | member key => exact .inl rfl
      | item key => exact .inr rfl

end Table

/-! ## Settings of variables -/

/-- The settings of variables if the capacity is known. -/
def withCapacity (vars : Variables) (capacity : Nat) : Settings where
  endpointSpecification :=
    (vars.get? (variableName specificationKey)).getD standard.endpointSpecification
  pidProperty := (vars.get? (variableName pidKey)).getD standard.pidProperty
  identityKey := (vars.get? (variableName identityKeyKey)).getD standard.identityKey
  eventCapacity := capacity
  logLevel := (vars.get? (variableName logLevelKey)).or standard.logLevel

theorem withCapacity_insert (vars : Variables) (text : String) :
    withCapacity (vars.insert (variableName capacityKey) text) = withCapacity vars := by
  have hkeep : ∀ key ∈ settingKeys, key ≠ capacityKey →
      (vars.insert (variableName capacityKey) text).get? (variableName key) =
        vars.get? (variableName key) := by
    intro key hkey hne
    rw [Dictionary.get?_insert, if_neg (hne ∘ variableName_inj hkey (by decide))]
  funext capacity
  rw [withCapacity, withCapacity, hkeep specificationKey (by decide) (by decide),
    hkeep pidKey (by decide) (by decide), hkeep identityKeyKey (by decide) (by decide),
    hkeep logLevelKey (by decide) (by decide)]

/-- The capacity of variables, where texts are read in some way. -/
def capacityBy? (read : String → Option Nat) (vars : Variables) : Option Nat :=
  match vars.get? (variableName capacityKey) with
  | none => some standard.eventCapacity
  | some text => read text

/-- The capacity that a text spells as a numeral. -/
def numeralCount? (text : String) : Option Nat := (Numeral.readUnsigned text.toList).toOption

/-- The names under which variables are read one by one. -/
theorem map_variableName_settingKeys :
    settingKeys.map variableName =
      ["LIFECYCLE_MANAGED_SERVICE_SPECIFICATION", "LIFECYCLE_PID_PROPERTY",
        "LIFECYCLE_IDENTITY_KEY", "LIFECYCLE_EVENT_CHANNEL_CAPACITY", "LIFECYCLE_LOG_LEVEL"] := by
  decide +kernel

theorem toOption_fromVariables (vars : Variables) :
    (fromVariables vars).toOption =
      (capacityBy? numeralCount? vars).bind fun capacity =>
        (validate (withCapacity vars capacity)).toOption := by
  obtain ⟨hspecification, hpid, hidentity, hcapacity, hlevel⟩ : _ ∧ _ ∧ _ ∧ _ ∧ _ := by
    simpa only [settingKeys, List.map_cons, List.map_nil, List.cons.injEq, and_true]
      using map_variableName_settingKeys
  simp only [fromVariables, capacityBy?, withCapacity, hspecification, hpid, hidentity, hcapacity,
    hlevel]
  cases vars.get? "LIFECYCLE_EVENT_CHANNEL_CAPACITY" with
  | none => rfl
  | some text =>
      simp only [numeralCount?]
      cases Numeral.readUnsigned text.toList <;> rfl

/-- A text is the value of a setting as it stands, but for the capacity. -/
theorem fromTable_eq_map {table : Table} {vars : Variables}
    (hget : ∀ key ∈ settingKeys, table.get? key = (vars.get? (variableName key)).map .text) :
    (fromTable table).toOption =
      (capacityBy? (fun text => entryCount? (.text text)) vars).map (withCapacity vars) := by
  simp only [settingKeys, List.forall_mem_cons] at hget
  obtain ⟨hspecification, hpid, hidentity, hcapacity, hlevel, -⟩ := hget
  have hread : ∀ (key standard : String),
      table.get? key = (vars.get? (variableName key)).map .text →
        entryOr table key standard entryText? =
          .ok ((vars.get? (variableName key)).getD standard) := by
    intro key standard hkey
    rw [entryOr, hkey]
    cases vars.get? (variableName key) <;> rfl
  have hreadLevel : entryOr table logLevelKey standard.logLevel entryOption? =
      .ok ((vars.get? (variableName logLevelKey)).or standard.logLevel) := by
    rw [entryOr, hlevel]
    cases vars.get? (variableName logLevelKey) <;> rfl
  rw [fromTable, hread _ _ hspecification, hread _ _ hpid, hread _ _ hidentity, hreadLevel]
  simp only [capacityBy?, entryOr, hcapacity]
  cases vars.get? (variableName capacityKey) with
  | none => rfl
  | some text =>
      simp only [Option.map_some]
      cases entryCount? (.text text) <;> rfl

/-- Of an entry that is an object or an array no setting is read. -/
theorem toOption_fromTable_eq_none {table : Table} {key : String} (hkey : key ∈ settingKeys)
    (hvalue : table.get? key = some (.object []) ∨ table.get? key = some (.list [])) :
    (fromTable table).toOption = none := by
  have hfail : ∀ {α : Type} (standard : α) (read : Value → Option α), read (.object []) = none →
      read (.list []) = none → (entryOr table key standard read).toOption = none := by
    intro α standard read hobject hlist
    rcases hvalue with hvalue | hvalue
    · simp only [entryOr, hvalue, hobject, Except.toOption]
    · simp only [entryOr, hvalue, hlist, Except.toOption]
  simp only [settingKeys, List.mem_cons, List.not_mem_nil, or_false] at hkey
  simp only [fromTable, Except.toOption_bind]
  rcases hkey with rfl | rfl | rfl | rfl | rfl
  · rw [hfail _ entryText? rfl rfl, Option.bind_none]
  · simp only [hfail _ entryText? rfl rfl, Option.bind_none, Option.bind_fun_none]
  · simp only [hfail _ entryText? rfl rfl, Option.bind_none, Option.bind_fun_none]
  · simp only [hfail _ entryCount? rfl rfl, Option.bind_none, Option.bind_fun_none]
  · simp only [hfail _ entryOption? rfl rfl, Option.bind_none, Option.bind_fun_none]

theorem toOption_load (vars : Variables) :
    (load .none vars).toOption =
      (fromTable (variableTable vars)).toOption.bind fun settings =>
        (validate settings).toOption :=
  Except.toOption_bind _ _

/-! ## Words for capacities -/

/-- A numeral without a minus sign has no letters. -/
theorem eq_plus_or_isDigit_of_spells {literal : List Char} {n : Int}
    (hspells : Numeral.Spells false literal n) : ∀ c ∈ literal, c = '+' ∨ c.isDigit = true := by
  intro c hc
  cases hspells with
  | plain hrun => exact .inr (hrun.digit c hc)
  | plus hrun => exact (List.mem_cons.mp hc).imp_right (hrun.digit c)
  | minus hsigned => exact absurd hsigned Bool.false_ne_true

theorem lowerKeyChar_eq_self {c : Char} (hc : c = '+' ∨ c.isDigit = true) : lowerKeyChar c = c := by
  rcases hc with rfl | hdigit
  · rfl
  · have hkelvin : c ≠ '\u212a' := by
      rintro rfl
      exact absurd hdigit (by decide)
    have hcapital : ¬('A'.val ≤ c.val ∧ c.val ≤ 'Z'.val) := by
      simp [Char.isDigit, UInt32.le_iff_toNat_le] at hdigit ⊢
      omega
    rw [lowerKeyChar, if_neg hkelvin, toLower_eq_self hcapital]

/-- The words for capacities. -/
def capacityWords : List String := ["true", "on", "yes"] ++ ["false", "off", "no"]

theorem wordCount?_eq_some {text : String} {n : Nat} (hword : wordCount? text = some n) :
    lowerKey text ∈ capacityWords ∧ (n = 0 ∨ n = 1) := by
  simp only [wordCount?, List.contains_iff_mem] at hword
  split at hword
  next hone => exact ⟨List.mem_append_left _ hone, .inr (Option.some.inj hword).symm⟩
  next =>
    split at hword
    next hzero => exact ⟨List.mem_append_right _ hzero, .inl (Option.some.inj hword).symm⟩
    next => cases hword

/-- A word is no numeral, since each of them has a letter. -/
theorem numeralCount?_of_wordCount? {text : String} {n : Nat} (hword : wordCount? text = some n) :
    numeralCount? text = none := by
  have hletter : ∀ word ∈ capacityWords, ¬word.toList.all fun c => c = '+' ∨ c.isDigit = true := by
    decide
  rw [numeralCount?]
  cases hread : Numeral.readUnsigned text.toList with
  | error fault => rfl
  | ok m =>
      have hplain := eq_plus_or_isDigit_of_spells (Numeral.readUnsigned_eq_ok_iff.mp hread).1
      have hlower : lowerKey text = text := by
        rw [lowerKey, (List.map_congr_left fun c hc => lowerKeyChar_eq_self (hplain c hc)).trans
          (List.map_id' text.toList), String.ofList_toList]
      refine absurd ?_ (hletter _ (wordCount?_eq_some hword).1)
      rw [hlower, List.all_eq_true]
      exact fun c hc => decide_eq_true (hplain c hc)

/-! ## Both readings -/

/-- The capacity of variables, if it is given by a word. -/
def capacityWord? (vars : Variables) : Option Nat :=
  (vars.get? (variableName capacityKey)).bind wordCount?

/-- No variable reaches into a setting. -/
def IsWhole (vars : Variables) : Prop :=
  ∀ name ∈ vars.keys, ∀ key ∈ settingKeys, ¬ReachesInto name key

instance (vars : Variables) : Decidable (IsWhole vars) :=
  List.decidableBAll _ vars.keys

theorem toOption_validate_withCapacity_zero (vars : Variables) :
    (validate (withCapacity vars 0)).toOption = none := by
  rw [validate, if_pos (c := (withCapacity vars 0).eventCapacity = 0) rfl]
  split_ifs <;> rfl

theorem toOption_load_of_isWhole {vars : Variables} (hcapitals : HasCapitalNames vars)
    (hwhole : IsWhole vars) :
    (load .none vars).toOption =
      (capacityBy? (fun text => entryCount? (.text text)) vars).bind fun capacity =>
        (validate (withCapacity vars capacity)).toOption := by
  rw [toOption_load, fromTable_eq_map fun key hkey => hcapitals.get?_variableTable hkey
    fun name hname => hwhole name hname key hkey, Option.bind_map]
  rfl

/-- Without a word for the capacity, or with one for zero, both readings agree. -/
theorem toOption_load_eq_fromVariables {vars : Variables} (hcapitals : HasCapitalNames vars)
    (hwhole : IsWhole vars) (hword : capacityWord? vars ≠ some 1) :
    (load .none vars).toOption = (fromVariables vars).toOption := by
  rw [toOption_load_of_isWhole hcapitals hwhole, toOption_fromVariables, capacityBy?, capacityBy?]
  rw [capacityWord?] at hword
  cases htext : vars.get? (variableName capacityKey) with
  | none => rfl
  | some text =>
      rw [htext, Option.bind_some] at hword
      simp only [entryCount?]
      cases hcount : wordCount? text with
      | none => rfl
      | some n =>
          rw [hcount] at hword
          rw [numeralCount?_of_wordCount? hcount]
          rcases (wordCount?_eq_some hcount).2 with rfl | rfl
          · exact toOption_validate_withCapacity_zero vars
          · exact absurd rfl hword

theorem capacityWord?_eq_one {vars : Variables} (hword : capacityWord? vars = some 1) :
    ∃ text, vars.get? (variableName capacityKey) = some text ∧ wordCount? text = some 1 :=
  Option.bind_eq_some_iff.mp hword

/-- A word for one is no capacity of variables that are read one by one. -/
theorem toOption_fromVariables_of_word {vars : Variables} (hword : capacityWord? vars = some 1) :
    (fromVariables vars).toOption = none := by
  obtain ⟨text, htext, hcount⟩ := capacityWord?_eq_one hword
  rw [toOption_fromVariables, capacityBy?, htext]
  simp only [numeralCount?_of_wordCount? hcount, Option.bind_none]

/-- In the table a word for one is the numeral. -/
theorem toOption_load_of_word {vars : Variables} (hcapitals : HasCapitalNames vars)
    (hwhole : IsWhole vars) (hword : capacityWord? vars = some 1) :
    (load .none vars).toOption =
      (fromVariables (vars.insert (variableName capacityKey) "1")).toOption := by
  obtain ⟨text, htext, hcount⟩ := capacityWord?_eq_one hword
  rw [toOption_load_of_isWhole hcapitals hwhole, toOption_fromVariables, withCapacity_insert,
    capacityBy?, capacityBy?, htext, Dictionary.get?_insert, if_pos rfl]
  simp only [entryCount?, hcount]
  rfl

/-- With names in capitals, none of which reaches into a setting, the table gives the settings
of the variables read one by one, or none where these give none, unless the capacity is a word
for one: then only the table gives settings, those of the numeral. A setting that is reached
into, and has no variable of its own, is not given by the table. -/
theorem load_agrees_with_fromVariables {vars : Variables} (hcapitals : HasCapitalNames vars) :
    (IsWhole vars → capacityWord? vars ≠ some 1 →
      (load .none vars).toOption = (fromVariables vars).toOption) ∧
    (IsWhole vars → capacityWord? vars = some 1 →
      (fromVariables vars).toOption = none ∧
        (load .none vars).toOption =
          (fromVariables (vars.insert (variableName capacityKey) "1")).toOption) ∧
    ((∃ name ∈ vars.keys, ∃ key ∈ settingKeys,
        ReachesInto name key ∧ variableName key ∉ vars.keys) →
      (load .none vars).toOption = none) := by
  refine ⟨toOption_load_eq_fromVariables hcapitals, fun hwhole hword =>
    ⟨toOption_fromVariables_of_word hword, toOption_load_of_word hcapitals hwhole hword⟩, ?_⟩
  rintro ⟨name, hname, key, hkey, hreaches, hunnamed⟩
  have hvalue := hcapitals.get?_variableTable_of_reachesInto hname hreaches hunnamed
  rw [toOption_load, toOption_fromTable_eq_none hkey hvalue, Option.bind_none]

/-- Numerals may have a plus sign and zeros ahead; words are read without regard to case. -/
theorem load_agrees_with_fromVariables_spellings :
    let numeral : Variables := Dictionary.ofList [("HOME", "/"), ("LIFECYCLE_ENV", "test"),
      ("LIFECYCLE_EVENT_CHANNEL_CAPACITY", "+016"), ("LIFECYCLE_IDENTITY_KEY", "key")]
    let word : Variables := Dictionary.ofList [("LIFECYCLE_EVENT_CHANNEL_CAPACITY", "Yes")]
    let reaching : Variables := Dictionary.ofList [("LIFECYCLE_LOG_LEVEL[0]", "info")]
    HasCapitalNames numeral ∧ IsWhole numeral ∧ capacityWord? numeral ≠ some 1 ∧
      (fromVariables numeral).toOption =
        some { standard with identityKey := "key", eventCapacity := 16 } ∧
      (load .none numeral).toOption = (fromVariables numeral).toOption ∧
    HasCapitalNames word ∧ IsWhole word ∧ capacityWord? word = some 1 ∧
      (load .none word).toOption =
        (fromVariables (word.insert (variableName capacityKey) "1")).toOption ∧
    HasCapitalNames reaching ∧ ReachesInto "LIFECYCLE_LOG_LEVEL[0]" logLevelKey ∧
      (load .none reaching).toOption = none := by
  intro numeral word reaching
  obtain ⟨hnumeral, hplain, hnone⟩ :
      HasCapitalNames numeral ∧ IsWhole numeral ∧ capacityWord? numeral ≠ some 1 := by
    decide +kernel
  obtain ⟨hword, hwhole, hone⟩ :
      HasCapitalNames word ∧ IsWhole word ∧ capacityWord? word = some 1 := by
    decide +kernel
  obtain ⟨hreaching, hmem, hkey, hreaches, hunnamed⟩ :
      HasCapitalNames reaching ∧ "LIFECYCLE_LOG_LEVEL[0]" ∈ reaching.keys ∧
        logLevelKey ∈ settingKeys ∧ ReachesInto "LIFECYCLE_LOG_LEVEL[0]" logLevelKey ∧
        variableName logLevelKey ∉ reaching.keys := by
    decide +kernel
  have hagree := (load_agrees_with_fromVariables hnumeral).1 hplain hnone
  have hnumber := ((load_agrees_with_fromVariables hword).2.1 hwhole hone).2
  have hfail := (load_agrees_with_fromVariables hreaching).2.2
    ⟨_, hmem, _, hkey, hreaches, hunnamed⟩
  exact ⟨hnumeral, hplain, hnone, by decide +kernel, hagree, hword, hwhole, hone, hnumber,
    hreaching, hreaches, hfail⟩

/-- A word for the capacity, a name that reaches into a setting, and a name with the sign of the
kelvin, which has no small letter, concern the table only. -/
theorem load_departs_from_fromVariables :
    let word : Variables := Dictionary.ofList [("LIFECYCLE_EVENT_CHANNEL_CAPACITY", "true")]
    let reaching : Variables := Dictionary.ofList [("LIFECYCLE_PID_PROPERTY.X", "1")]
    let kelvin : Variables := Dictionary.ofList [("LIFECYCLE_IDENTITY_\u212aEY", "kel")]
    HasCapitalNames word ∧ load .none word = .ok { standard with eventCapacity := 1 } ∧
      fromVariables word = .error (.invalidCapacity .invalidDigit) ∧
    HasCapitalNames reaching ∧ load .none reaching = .error .unreadable ∧
      fromVariables reaching = .ok standard ∧
    load .none kelvin = .ok { standard with identityKey := "kel" } ∧
      fromVariables kelvin = .ok standard := by
  decide +kernel

end Settings

end Componentry
