import P1Chip.Pins.State

/-!
# Plugins

A plugin is something outside that is attached to the pins: it watches them and the clock, and may
drive pins and print lines of text.  All plugins hear of a reset and of their removal; of clocks
and pin changes only those that asked for it.

* `Plugin` — what a plugin does when it is called.
* `PluginSet` — the attached plugins, in the order in which they were attached and are called.
* `PluginSet.deliverClock`, `PluginSet.deliverPins`, `PluginSet.deliverReset`,
  `PluginSet.closeAll` — calling them.
-/

namespace P1Chip

/-- What a call made of a plugin and of the pins, and the lines that it printed. -/
structure Reaction (π : Type) where
  plugin : π
  external : ExternalDrive
  lines : List String

/-- The calls that a plugin answers.  `π` is the type of the plugin's state and `τ` that of
times. -/
class Plugin (τ π : Type) where
  /-- A system clock has gone by.  The plugin is told the time in seconds and the system
  counter. -/
  onClock : π → τ → UInt32 → ExternalDrive → Reaction π
  /-- Some pin may have changed.  The plugin is told the time in seconds and all pins. -/
  onPins : π → τ → PinStates → ExternalDrive → Reaction π
  /-- The chip was reset. -/
  onReset : π → π × List String
  /-- The plugin is being removed. -/
  onClose : π → List String

/-- There are no plugins of the empty type. -/
instance {τ : Type} : Plugin τ Empty where
  onClock := fun plugin => nomatch plugin
  onPins := fun plugin => nomatch plugin
  onReset := fun plugin => nomatch plugin
  onClose := fun plugin => nomatch plugin

/-- The number of a plugin, which no other plugin of the same set gets. -/
structure PluginId where
  index : Nat
deriving DecidableEq, Repr, Inhabited

namespace PluginId

/-- The name of the plugin with this number. -/
def name (id : PluginId) : String :=
  "plugin#" ++ toString id.index

end PluginId

/-- An attached plugin and what it asked for. -/
structure Attached (π : Type) where
  id : PluginId
  wantsClock : Bool
  wantsPins : Bool
  plugin : π

/-- The attached plugins. -/
structure PluginSet (π : Type) where
  /-- Number of plugins that were ever attached, and number of the next one. -/
  nextId : Nat
  /-- The plugins in the order in which they were attached. -/
  attached : List (Attached π)
  /-- All lines that the plugins have printed. -/
  printed : Array String

namespace PluginSet

variable {τ π : Type}

/-- No plugin was ever attached. -/
def empty : PluginSet π where
  nextId := 0
  attached := []
  printed := #[]

/-- Whether no plugin is attached. -/
def isEmpty (set : PluginSet π) : Bool :=
  set.attached.isEmpty

/-- The numbers of the attached plugins. -/
def ids (set : PluginSet π) : List PluginId :=
  set.attached.map (·.id)

/-- Attaches a plugin, which has asked for nothing yet. -/
def attach (set : PluginSet π) (plugin : π) : PluginId × PluginSet π :=
  let id : PluginId := ⟨set.nextId⟩
  let attached : Attached π := { id, wantsClock := false, wantsPins := false, plugin }
  (id, { set with nextId := set.nextId + 1, attached := set.attached ++ [attached] })

/-- Whether a plugin is attached. -/
def contains (set : PluginSet π) (id : PluginId) : Bool :=
  set.attached.any (·.id == id)

/-- Changes what the plugin with the given number asks for. -/
def subscribe (set : PluginSet π) (id : PluginId) (change : Attached π → Attached π) :
    Bool × PluginSet π :=
  (set.contains id,
    { set with attached := set.attached.map fun a => if a.id = id then change a else a })

/-- From now on the plugin hears of every clock.  Tells whether it is attached. -/
def subscribeClock (set : PluginSet π) (id : PluginId) : Bool × PluginSet π :=
  set.subscribe id fun a => { a with wantsClock := true }

/-- From now on the plugin hears of every change of the pins.  Tells whether it is attached. -/
def subscribePins (set : PluginSet π) (id : PluginId) : Bool × PluginSet π :=
  set.subscribe id fun a => { a with wantsPins := true }

variable [Plugin τ π]

/-- Calls those of the plugins that want it, one after the other.  Each sees the pins as the one
before left them. -/
def deliver (wants : Attached π → Bool) (call : π → ExternalDrive → Reaction π) :
    List (Attached π) → ExternalDrive → List (Attached π) × ExternalDrive × List String
  | [], external => ([], external, [])
  | a :: rest, external =>
    if wants a then
      let reaction := call a.plugin external
      let (rest, external, lines) := deliver wants call rest reaction.external
      ({ a with plugin := reaction.plugin } :: rest, external, reaction.lines ++ lines)
    else
      let (rest, external, lines) := deliver wants call rest external
      (a :: rest, external, lines)

/-- Tells the plugins that asked for it that a clock has gone by. -/
def deliverClock (set : PluginSet π) (time : τ) (counter : UInt32) (external : ExternalDrive) :
    PluginSet π × ExternalDrive :=
  let (attached, external, lines) :=
    deliver (·.wantsClock) (fun plugin => Plugin.onClock plugin time counter) set.attached external
  ({ set with attached, printed := set.printed.appendList lines }, external)

/-- Tells the plugins that asked for it what the pins are. -/
def deliverPins (set : PluginSet π) (time : τ) (pins : PinStates) (external : ExternalDrive) :
    PluginSet π × ExternalDrive :=
  let (attached, external, lines) :=
    deliver (·.wantsPins) (fun plugin => Plugin.onPins plugin time pins) set.attached external
  ({ set with attached, printed := set.printed.appendList lines }, external)

variable (τ)

/-- Tells all plugins that the chip was reset. -/
def deliverReset (set : PluginSet π) : PluginSet π :=
  let answers := set.attached.map fun a =>
    let (plugin, lines) := Plugin.onReset τ a.plugin
    ({ a with plugin }, lines)
  { set with
    attached := answers.map (·.1)
    printed := set.printed.appendList (answers.flatMap (·.2)) }

/-- Detaches a plugin, which is told so.  Tells whether it was attached. -/
def remove (set : PluginSet π) (id : PluginId) : Bool × PluginSet π :=
  match set.attached.find? (·.id == id) with
  | none => (false, set)
  | some a =>
    (true,
      { set with
        attached := set.attached.eraseP (·.id == id)
        printed := set.printed.appendList (Plugin.onClose τ a.plugin) })

/-- Detaches all plugins, which are told so. -/
def closeAll (set : PluginSet π) : PluginSet π :=
  { set with
    attached := []
    printed := set.printed.appendList (set.attached.flatMap fun a => Plugin.onClose τ a.plugin) }

end PluginSet

end P1Chip
