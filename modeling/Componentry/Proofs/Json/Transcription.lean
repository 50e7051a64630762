import Componentry.Codec
import Componentry.Proofs.Json.Recovery

/-!
# Written forms are faithful

What was written of a descriptor, of a surface, of a change of state or of settings is read
back as the same, whatever strings it has and however many parts. An element is read back as
long as its text does not nest deeper than a reader allows.
-/

namespace Componentry

namespace Json

variable {α : Type}

theorem plainItems_iff {items : List Json} : PlainItems items ↔ ∀ item ∈ items, item.Plain := by
  induction items with
  | nil => simp [PlainItems]
  | cons item rest ih => simp [PlainItems, ih]

theorem plainMembers_iff {members : List (String × Json)} :
    PlainMembers members ↔ ∀ member ∈ members, member.2.Plain := by
  induction members with
  | nil => simp [PlainMembers]
  | cons member rest ih => simp [PlainMembers, ih]

@[simp] theorem plain_string (s : String) : (string s).Plain := trivial

@[simp] theorem plain_boolean (b : Bool) : (boolean b).Plain := trivial

@[simp] theorem plain_ofString? (s : Option String) : (ofString? s).Plain := by
  cases s <;> trivial

@[simp] theorem plain_array {items : List Json} :
    (array items).Plain ↔ ∀ item ∈ items, item.Plain := plainItems_iff

@[simp] theorem plain_object {members : List (String × Json)} :
    (object members).Plain ↔ ∀ member ∈ members, member.2.Plain := plainMembers_iff

@[simp] theorem string?_string (s : String) : string? (string s) = some s := rfl

@[simp] theorem nullable?_ofString? (s : Option String) : nullable? (ofString? s) = some s := by
  cases s <;> rfl

@[simp] theorem unsigned?_integer {n : Nat} (hn : n ≤ Numeral.maxUnsigned) :
    unsigned? (integer (Int.ofNat n)) = some n := by
  simp [unsigned?, hn]

/-- Items that are read back one by one are read back as a list. -/
theorem list?_map {read : Json → Option α} {write : α → Json} {items : List α}
    (hitems : ∀ a ∈ items, read (write a) = some a) :
    list? read (array (items.map write)) = some items := by
  rw [list?]
  induction items with
  | nil => rfl
  | cons a rest ih =>
      have hrest := ih fun b hb => hitems b (List.mem_cons_of_mem a hb)
      simp [hitems a List.mem_cons_self, hrest]

/-- A dictionary of strings is read back from its entries. -/
theorem strings?_entries (d : Dictionary String) :
    strings? (object (d.entries.map fun (key, value) => (key, string value))) = some d := by
  have hentries : ∀ entries : List (String × String),
      (entries.map fun (key, value) => (key, string value)).mapM
        (fun member => (string? member.2).map (member.1, ·)) = some entries := by
    intro entries
    induction entries with
    | nil => rfl
    | cons entry rest ih =>
        rw [List.map_cons, List.mapM_cons, ih]
        rfl
  rw [strings?, hentries, Option.map_some]
  exact congrArg some d.empty_override

/-- A value whose document is plain is read back from the document. -/
structure Codec.Restores (codec : Codec α) (a : α) : Prop where
  plain : (codec.encode a).Plain
  decoded : codec.decode? (codec.encode a) = some a

/-- What is read back from its document is read back from its text. -/
theorem Codec.Restores.read_write {codec : Codec α} {a : α} (h : codec.Restores a) :
    codec.read (codec.write a) = .ok a := by
  simp [Codec.read, Codec.write, parse?_compact h.plain, Codec.decode, h.decoded]

theorem Codec.Restores.read_indented {codec : Codec α} {a : α} (h : codec.Restores a) :
    codec.read (codec.encode a).indented = .ok a := by
  simp [Codec.read, parse?_indented h.plain, Codec.decode, h.decoded]

end Json

open Json

namespace Element

theorem listToJson_eq (elements : List Element) : listToJson elements = elements.map toJson := by
  induction elements with
  | nil => rfl
  | cons e rest ih => rw [listToJson, ih, List.map_cons]

mutual

theorem plain_toJson : ∀ e : Element, e.toJson.Plain
  | ⟨name, domain, attributes, children⟩ => by
      have hattributes : (Json.object (attributes.entries.map fun (key, value) =>
          (key, .string value))).Plain := by
        rw [plain_object]
        intro member hmem
        obtain ⟨entry, -, rfl⟩ := List.mem_map.mp hmem
        trivial
      have hchildren : (Json.array (listToJson children)).Plain :=
        plain_array.mpr (plainItems_listToJson children)
      cases domain <;> simp [toJson, hattributes, hchildren, -plain_array]

theorem plainItems_listToJson : ∀ elements : List Element, ∀ item ∈ listToJson elements, item.Plain
  | [], item, hmem => absurd hmem List.not_mem_nil
  | e :: rest, item, hmem => by
      rcases List.mem_cons.mp hmem with rfl | hrest
      · exact plain_toJson e
      · exact plainItems_listToJson rest item hrest

end

theorem depth_le_depthItems {item : Json} {items : List Json} (hmem : item ∈ items) :
    item.depth ≤ depthItems items := by
  induction items with
  | nil => cases hmem
  | cons head rest ih =>
      rw [depthItems]
      rcases List.mem_cons.mp hmem with rfl | hrest
      · exact Nat.le_max_left _ _
      · exact Nat.le_trans (ih hrest) (Nat.le_max_right _ _)

/-- An element opens an object, and an array for its children within. -/
theorem depth_toJson (e : Element) : depthItems (listToJson e.children) + 2 ≤ e.toJson.depth := by
  obtain ⟨name, domain, attributes, children⟩ := e
  cases domain <;> simp [toJson, Json.depth, depthMembers]

/-- The slots of a record are its members, whichever of them are written. -/
theorem slots?_toJson (name : String) (domain : Option String) (attributes : Dictionary String)
    (children : List Element) :
    slots? ["name", "namespace", "attributes", "elements"]
        (toJson ⟨name, domain, attributes, children⟩) =
      some [.given (.string name),
        match domain with
        | some domain => .given (.string domain)
        | none => .omitted,
        .given (.object (attributes.entries.map fun (key, value) => (key, .string value))),
        .given (.array (listToJson children))] := by
  cases domain <;> simp [toJson, slots?, memberSlot?]

theorem ofJson?_toJson : ∀ (depth : Nat) (e : Element), e.toJson.depth ≤ depth →
    ofJson? depth e.toJson = some e
  | 0, e, hdepth => by
      have hopen := e.depth_toJson
      omega
  | 1, e, hdepth => by
      have hopen := e.depth_toJson
      omega
  | depth + 2, ⟨name, domain, attributes, children⟩, hdepth => by
      have hopen : depthItems (listToJson children) + 2 ≤ _ :=
        depth_toJson ⟨name, domain, attributes, children⟩
      have hchildren : list? (ofJson? depth) (.array (children.map toJson)) = some children := by
        apply list?_map
        intro child hmem
        have hchild : child.toJson.depth ≤ depthItems (listToJson children) := by
          apply depth_le_depthItems
          rw [listToJson_eq]
          exact List.mem_map_of_mem hmem
        exact ofJson?_toJson depth child (by omega)
      rw [ofJson?, slots?_toJson, listToJson_eq]
      cases domain <;>
        simp [Slot.required, Slot.defaulted, nullable?, strings?_entries, hchildren]

theorem restores {e : Element} (hdepth : e.toJson.depth ≤ depthLimit) : codec.Restores e where
  plain := e.plain_toJson
  decoded := ofJson?_toJson depthLimit e hdepth

end Element

theorem PropertyDescriptor.restores (p : PropertyDescriptor) : codec.Restores p where
  plain := by simp [codec]
  decoded := by simp [codec, slots?, memberSlot?, Slot.required, Slot.optionalString]

theorem FactoryPolicy.restores (policy : FactoryPolicy) : codec.Restores policy := by
  cases policy <;> exact ⟨trivial, rfl⟩

theorem Validity.restores (state : Validity) : codec.Restores state := by
  cases state <;> exact ⟨trivial, rfl⟩

theorem ServiceDescriptor.restores (service : ServiceDescriptor) : codec.Restores service where
  plain := by
    have hproperties := fun p : PropertyDescriptor => p.restores.plain
    simp [codec, service.factory.restores.plain, hproperties]
  decoded := by
    have hspecifications : list? string? (.array (service.specifications.map .string)) =
        some service.specifications := list?_map fun s _ => string?_string s
    have hproperties : list? PropertyDescriptor.codec.decode?
        (.array (service.properties.map PropertyDescriptor.codec.encode)) =
          some service.properties := list?_map fun p _ => p.restores.decoded
    simp [codec, slots?, memberSlot?, Slot.required, hspecifications, hproperties,
      service.factory.restores.decoded]

theorem Transition.restores (transition : Transition) : codec.Restores transition where
  plain := by simp [codec, transition.source.restores.plain, transition.target.restores.plain]
  decoded := by
    simp [codec, slots?, memberSlot?, Slot.required, transition.source.restores.decoded,
      transition.target.restores.decoded]

theorem CallbackDescriptor.restores (callback : CallbackDescriptor) : codec.Restores callback where
  plain := by simp [codec, callback.initial.restores.plain, callback.final.restores.plain]
  decoded := by
    simp [codec, slots?, memberSlot?, Slot.required, boolean?, callback.initial.restores.decoded,
      callback.final.restores.decoded]

theorem SurfaceProperty.restores (property : SurfaceProperty) : codec.Restores property where
  plain := by simp [codec, toJson]
  decoded := by
    simp [codec, toJson, slots?, memberSlot?, Slot.required, Slot.optionalString]

theorem Surface.restores (surface : Surface) : codec.Restores surface where
  plain := by
    have hproperties := fun p : SurfaceProperty => p.restores.plain
    simp only [SurfaceProperty.codec] at hproperties
    simp [codec, toJson, hproperties]
  decoded := by
    have hspecifications : list? string? (.array (surface.specifications.map .string)) =
        some surface.specifications := list?_map fun s _ => string?_string s
    have hproperties : list? SurfaceProperty.codec.decode?
        (.array (surface.properties.map SurfaceProperty.toJson)) =
          some surface.properties := list?_map fun p _ => p.restores.decoded
    simp [codec, toJson, slots?, memberSlot?, Slot.required, hspecifications, hproperties]

theorem Settings.restores {settings : Settings}
    (hcapacity : settings.eventCapacity ≤ Numeral.maxUnsigned) : codec.Restores settings where
  plain := by
    have hsigned : 0 ≤ Int.ofNat settings.eventCapacity := Int.natCast_nonneg _
    have hfits : Fits (Int.ofNat settings.eventCapacity) :=
      ⟨by omega, Int.ofNat_le.mpr hcapacity⟩
    have hplain : (Json.integer (Int.ofNat settings.eventCapacity)).Plain := hfits
    simp [codec, -Int.ofNat_eq_natCast, hplain]
  decoded := by
    simp [codec, slots?, memberSlot?, Slot.defaulted, specificationKey, pidKey, identityKeyKey,
      capacityKey, logLevelKey, -Int.ofNat_eq_natCast, unsigned?_integer hcapacity]

/-- What is written of any descriptor, of a change of state, of a surface and of settings is
read back as the same, and so is the text of a surface. The capacity of settings is a word of
64 bits, and the text of an element must not nest too deeply. -/
theorem written_forms_restore :
    (∀ e : Element, e.toJson.depth ≤ Element.depthLimit →
      Element.codec.read (Element.codec.write e) = .ok e) ∧
    (∀ p : PropertyDescriptor, PropertyDescriptor.codec.read (PropertyDescriptor.codec.write p) =
      .ok p) ∧
    (∀ service : ServiceDescriptor,
      ServiceDescriptor.codec.read (ServiceDescriptor.codec.write service) = .ok service) ∧
    (∀ callback : CallbackDescriptor,
      CallbackDescriptor.codec.read (CallbackDescriptor.codec.write callback) = .ok callback) ∧
    (∀ surface : Surface, Surface.codec.read (Surface.codec.write surface) = .ok surface ∧
      Surface.codec.read surface.toText = .ok surface) ∧
    (∀ transition : Transition,
      Transition.codec.read (Transition.codec.write transition) = .ok transition) ∧
    (∀ settings : Settings, settings.eventCapacity ≤ Numeral.maxUnsigned →
      Settings.codec.read (Settings.codec.write settings) = .ok settings) := by
  refine ⟨?element, ?property, ?service, ?callback, ?surface, ?transition, ?settings⟩
  case element => exact fun e hdepth => (Element.restores hdepth).read_write
  case property => exact fun p => p.restores.read_write
  case service => exact fun service => service.restores.read_write
  case callback => exact fun callback => callback.restores.read_write
  case surface => exact fun surface => ⟨surface.restores.read_write, surface.restores.read_indented⟩
  case transition => exact fun transition => transition.restores.read_write
  case settings => exact fun settings hcapacity => (Settings.restores hcapacity).read_write

/-- An element with a domain, within one that has none, and with strings that need escapes. -/
def Element.intricate : Element :=
  (Element.leaf "").withChild
    { Element.leaf "a\"b\\c" with
      domain := some "\u0001\n\u007f"
      attributes := .ofList [("é", "/"), ("", "\u001f😀")]
      children := [.leaf "null", .leaf "0"] }

/-- The element is read back, and so are settings with the greatest capacity. -/
theorem written_forms_restore_intricate :
    Element.codec.read (Element.codec.write .intricate) = .ok .intricate ∧
    Settings.codec.read (Settings.codec.write
      { Settings.standard with eventCapacity := Numeral.maxUnsigned }) =
        .ok { Settings.standard with eventCapacity := Numeral.maxUnsigned } := by
  obtain ⟨helement, -, -, -, -, -, hsettings⟩ := written_forms_restore
  exact ⟨helement .intricate (by decide +kernel), hsettings _ (Nat.le_refl _)⟩

end Componentry
