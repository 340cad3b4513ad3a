import Reconciler.Provider.Json
import Reconciler.Text.Blank
import Reconciler.Text.Case
import Reconciler.Yaml.Json
/-!
How the engine is set up: its delays, the namespace it keeps to, and the provider it calls. A
configuration is taken only if `validate` has no objection.
-/

set_option autoImplicit false

namespace Reconciler

/-- The provider by name, and options that only the provider understands. -/
structure ProviderChoice where
  name : String
  options : Yaml.Value

instance : Inhabited ProviderChoice := ⟨⟨Dummy.providerName, .null⟩⟩

/-- Delays in seconds, a namespace and a provider. -/
structure Configuration where
  /-- After what time an object is looked at again when its rule asks for it. -/
  requeueAfterSecs : Nat
  /-- How long one look at an object may take. -/
  reconcileTimeoutSecs : Nat
  /-- The time between two sweeps over a store. -/
  pollIntervalSecs : Nat
  namespaceName : Option String
  provider : ProviderChoice

instance : Inhabited Configuration := ⟨⟨300, 60, 5, none, default⟩⟩

namespace Configuration

def requeueAfter (c : Configuration) : Duration := .ofSeconds c.requeueAfterSecs

def reconcileTimeout (c : Configuration) : Duration := .ofSeconds c.reconcileTimeoutSecs

def pollInterval (c : Configuration) : Duration := .ofSeconds c.pollIntervalSecs

/-- The first objection to a configuration: no time for a look, no time between sweeps, or a
provider without a name. -/
def objection? (c : Configuration) : Option String :=
  if c.reconcileTimeoutSecs = 0 then some "reconcileTimeoutSecs must be greater than zero"
  else if c.pollIntervalSecs = 0 then some "pollIntervalSecs must be greater than zero"
  else if Text.trim c.provider.name.toList = [] then some "provider.name must not be empty"
  else none

def validate (c : Configuration) : Except Error Unit :=
  match c.objection? with
  | some text => .error (.configuration text)
  | none => .ok ()

def toJson (c : Configuration) : Json :=
  .record [("requeueAfterSecs", Json.nat c.requeueAfterSecs),
    ("reconcileTimeoutSecs", Json.nat c.reconcileTimeoutSecs),
    ("pollIntervalSecs", Json.nat c.pollIntervalSecs),
    ("namespace", Json.ofOption .text c.namespaceName),
    ("provider", .record [("name", .text c.provider.name),
      ("options", c.provider.options.toJson)])]

end Configuration

namespace ProviderChoice

def dummyConfig (p : ProviderChoice) : Except Error Dummy.Config :=
  if p.options.isNull then .ok default
  else
    let record := p.options.toRecord
    match if record.isRecord then Dummy.Config.ofJson record else none with
    | some config => .ok config
    | none => .error (.configuration ("invalid options for provider " ++ p.name))

def known : List String := [Dummy.providerName]

/-- The provider that is chosen; the case of its name does not matter. -/
def create (p : ProviderChoice) : Except Error Dummy :=
  let name := Text.lower p.name
  if name = Dummy.providerName then (p.dummyConfig).map Dummy.ofConfig
  else .error (.configuration
    ("unknown provider '" ++ name ++ "', expected one of: " ++ String.intercalate ", " known))

end ProviderChoice

end Reconciler
