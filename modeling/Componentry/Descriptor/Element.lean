import Componentry.Dictionary

/-!
# Elements of a component description

A component is described by a tree of named elements with attributes, and every
part of the library reads the elements that concern it.
-/

namespace Componentry

/-- A node of a component description. -/
structure Element where
  name : String
  domain : Option String
  attributes : Dictionary String
  children : List Element

namespace Element

instance : Inhabited Element := ⟨⟨"", none, .empty, []⟩⟩

/-- An element without attributes and children. -/
def leaf (name : String) : Element := ⟨name, none, .empty, []⟩

/-- The element with an attribute, instead of one with the same key. -/
def withAttribute (e : Element) (key value : String) : Element :=
  { e with attributes := e.attributes.insert key value }

/-- The element with one more child at the end. -/
def withChild (e child : Element) : Element := { e with children := e.children ++ [child] }

/-- The value of an attribute. -/
def attribute? (e : Element) (key : String) : Option String := e.attributes.get? key

/-- Whether there is an attribute with a key. -/
def hasAttribute (e : Element) (key : String) : Bool := e.attributes.contains key

/-- The children with a name, in order and whatever their domain. -/
def childrenNamed (e : Element) (name : String) : List Element :=
  e.children.filter fun child => child.name == name

/-- The first child with a name. -/
def first? (e : Element) (name : String) : Option Element :=
  e.children.find? fun child => child.name == name

mutual

/-- Whether two trees are the same. -/
def same : Element → Element → Bool
  | ⟨name, domain, attributes, children⟩, ⟨name', domain', attributes', children'⟩ =>
      name == name' && domain == domain' && decide (attributes = attributes') &&
        sameList children children'

def sameList : List Element → List Element → Bool
  | [], [] => true
  | e :: rest, e' :: rest' => same e e' && sameList rest rest'
  | _, _ => false

end

end Element

end Componentry
