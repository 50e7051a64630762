import Componentry.Engine.Attaching

/-!
# The configurator

A configurator binds the declared properties of its component to configuration: it
gives them their initial values, follows the writes of their fields, and answers
reads. If the declaration says so it also publishes an endpoint through which the
component can be configured anew while it is valid. How an update is applied is said
in `Componentry.Engine.Updating`.
-/

namespace Componentry.Configurator

variable {σ : Type} (out : Collaborators σ)

/-- The record of a property without a name. -/
def unnamedProperty (className : String) : Log.Record :=
  ⟨.error, "A configurable property needs a name or a field",
    [Log.shown "component" className]⟩

/-- The type of a property: that of its field, else the one that a typed entry of
the configuration carries by itself. -/
def propertyType? (descriptor : ComponentDescriptor) (configuration : Properties)
    (name : String) (field : Option String) : Option String :=
  (field.bind descriptor.fieldType?).or
    (((configuration.get? name).filter fun value => !value.isTextual).map Value.typeName)

/-- The property as the surface describes it. -/
def describe (property : ConfigurableProperty) : SurfaceProperty :=
  ⟨property.name, some property.typeName, Value.renderOption property.value⟩

/-- Make the property of an element and show it on the surface of the component; an
element without name and field makes none. -/
def bindProperty (r : Ref .configurator) (component : Ref .component)
    (descriptor : ComponentDescriptor) (configuration : Properties) (e : Element) :
    Run σ Unit := do
  let field := e.attribute? "field"
  match (e.attribute? "name").or field with
  | none => out.note (unnamedProperty descriptor.className)
  | some name =>
      let initial := initialText (some name) field (e.attribute? "value") configuration
      let (property, notes) :=
        ConfigurableProperty.create name field initial
          (propertyType? descriptor configuration name field)
      out.noteAll notes
      Component.changeSurface component (·.addProperty (describe property))
      let added ← Run.addProperty property
      Run.changeConfigurator r fun c => { c with properties := c.properties ++ [added] }

/-- Give a property the typed value that the configuration has for it, if any. -/
def injectTyped (configuration : Properties) (r : Ref .property) : Run σ Unit := do
  let property ← Run.property r
  match typedEntry property.name property.field configuration with
  | some value => Run.setProperty r (property.assign value)
  | none => return

/-- The identity of a component: what the configuration names it, else its class. -/
def identityOf (settings : Settings) (descriptor : ComponentDescriptor)
    (configuration : Properties) : String :=
  ((configuration.get? settings.identityKey).bind Value.text?).getD descriptor.className

/-- Whether a declaration asks for an endpoint. -/
def isConfigurable (declaration : Element) : Bool :=
  match declaration.attribute? "configurable" with
  | some flag => Text.lowerAscii flag.toList == "true".toList
  | none => false

/-- A configurator that knows no more than its component. -/
def reset (component : Ref .component) : Configurator :=
  ⟨some component, [], .empty, "", false, none⟩

/-- Configure the configurator for a component. It registers only if there is a
property. -/
def configure (r : Ref .configurator) (component : Ref .component)
    (descriptor : ComponentDescriptor) (configuration : Properties) : Run σ Unit := do
  Run.changeConfigurator r fun _ => reset component
  match descriptor.root.first? "Properties" with
  | none => return
  | some declaration =>
      (declaration.childrenNamed "Property").forM
        (bindProperty out r component descriptor configuration)
      let settings := (← Run.platform).settings
      Run.changeConfigurator r fun c =>
        { c with
          identity := identityOf settings descriptor configuration
          configurable := isConfigurable declaration }
      let properties := (← Run.configurator r).properties
      if properties.isEmpty then return
      properties.forM (injectTyped configuration)
      let fields := (← properties.mapM Run.property).filterMap ConfigurableProperty.field
      Component.attach out component (.configurator r) fields
      out.note
        (Log.handlerOperation "configure" descriptor.className "configuration" "registered"
          (some (String.ofList (Numeral.ofNat properties.length) ++ " properties")))

/-- Hold a further property, unless it is held already. -/
def addProperty (r : Ref .configurator) (property : Ref .property) : Run σ Unit :=
  Run.changeConfigurator r fun c =>
    if c.properties.contains property then c
    else { c with properties := c.properties ++ [property] }

/-- The first property with a name. -/
def property? (r : Ref .configurator) (name : String) :
    Run σ (Option ConfigurableProperty) := do
  let properties ← (← Run.configurator r).properties.mapM Run.property
  return properties.find? fun property => property.name == name

/-- The properties that an endpoint is published with. -/
def endpointProperties (settings : Settings) (identity : String) : Properties :=
  (Dictionary.empty.insert settings.pidProperty (.text identity)).insert "objectClass"
    (.list [.text settings.endpointSpecification])

/-- Publish the endpoint, if the declaration asks for one. What was published before
is withdrawn first. -/
def publish (r : Ref .configurator) : Run σ Unit := do
  let before ← Run.configurator r
  if !before.configurable then return
  Run.changeConfigurator r fun c => { c with publication := none }
  Run.whileAlive before.component fun component => do
    let className := (← Run.component component).className
    match before.publication with
    | none => pure ()
    | some previous =>
        match ← out.withdraw previous with
        | .ok () => pure ()
        | .error failure =>
            out.note
              ⟨.debug, "Stale publication already gone",
                [Log.shown "component" className, Log.shown "error" failure.message]⟩
    let settings := (← Run.platform).settings
    let shown := endpointProperties settings before.identity
    match ← out.publish before.identity shown (.configurator r) with
    | .ok handle =>
        Run.changeConfigurator r fun c => { c with publication := some handle }
        out.note
          (Log.handlerOperation "publish" className "configuration" "published"
            (some before.identity))
        out.tell (.configurationPublished className before.identity)
    | .error failure =>
        out.noteCaught className "publish_configuration" failure (some before.identity)

/-- Withdraw the endpoint, if there is one. -/
def withdraw (r : Ref .configurator) : Run σ Unit := do
  let before ← Run.configurator r
  match before.publication with
  | none => return
  | some handle =>
      Run.changeConfigurator r fun c => { c with publication := none }
      Run.whileAlive before.component fun component => do
        let className := (← Run.component component).className
        match ← out.withdraw handle with
        | .ok () =>
            out.note
              (Log.handlerOperation "withdraw" className "configuration" "withdrawn" none)
            let identity := (← Run.configurator r).identity
            out.tell (.configurationWithdrawn className identity)
        | .error failure =>
            out.note
              ⟨.debug, "Publication already withdrawn",
                [Log.shown "component" className, Log.shown "error" failure.message]⟩

/-- Start: the endpoint is published, again if it was before. -/
def start (r : Ref .configurator) : Run σ Unit := publish out r

/-- Stop: the endpoint is withdrawn. -/
def stop (r : Ref .configurator) : Run σ Unit := withdraw out r

/-- Follow a change of state. -/
def stateChanged (r : Ref .configurator) (state : Validity) : Run σ Unit := do
  match state with
  | .valid => if (← Run.configurator r).publication.isNone then publish out r
  | .invalid => withdraw out r

/-- The record of a property that a field write has changed. -/
def changedProperty (name field : String) : Log.Record :=
  ⟨.debug, "Configurable property updated",
    [Log.shown "property" name, Log.shown "field" field]⟩

/-- Give a value to a property, if a field backs it. -/
def writeProperty (field : String) (value : Value) (r : Ref .property) : Run σ Unit := do
  let property ← Run.property r
  if property.isBackedBy field then
    match property.assign? value with
    | none => return
    | some changed =>
        Run.setProperty r changed
        out.note (changedProperty property.name field)

/-- Follow the write of a field. -/
def fieldWritten (r : Ref .configurator) (field : String) (value : Value) : Run σ Unit := do
  (← Run.configurator r).properties.forM (writeProperty out field value)

/-- The value of a field that is being read: that of the first property that the
field backs, if it has one. -/
def readField (r : Ref .configurator) (field : String) (value : Option Value) :
    Run σ (Option Value) := do
  let properties ← (← Run.configurator r).properties.mapM Run.property
  return ((properties.find? (·.isBackedBy field)).bind ConfigurableProperty.value).or value

end Componentry.Configurator
