import ScriptHost.Convert.Inbound
import ScriptHost.Convert.Outbound

/-! Ready-made guards and conversions for the converters that users register. -/
namespace ScriptHost

/-- The types of host objects that a guard can ask for. -/
inductive HostType where
  | byte | text | pair
  deriving DecidableEq, Repr

def HostType.accepts : HostType → Payload → Bool
  | .byte, .byte _ => true
  | .text, .text _ => true
  | .pair, .pair _ _ => true
  | _, _ => false

/-- What a converter of host values applies to. -/
inductive InboundGuard where
  | any
  | never
  | kind (k : Kind)
  | host (type : HostType)
  | startsWith (s : String)

def InboundGuard.accepts : InboundGuard → Value → Bool
  | .any, _ => true
  | .never, _ => false
  | .kind k, v => v.kind == k
  | .host type, .host o => type.accepts o.payload
  | .startsWith start, .string s => s.startsWith start
  | _, _ => false

/-- What a converter of objects applies to. -/
inductive OutboundGuard where
  | any
  | never
  | className (name : String)

def OutboundGuard.accepts : OutboundGuard → Guest → Identity → Bool
  | .any, _, _ => true
  | .never, _, _ => false
  | .className name, g, id => g.className id == name

/-- The ready-made conversions of host values. -/
inductive InboundRecipe where
  | passthrough
  | structural
  | kind
  | tuple
  | safeList
  | pair
  | handles
  | constant (e : Expr)
  | raise (r : Raise)

namespace InboundPlan

private def orFail (next : Identity → InboundPlan) : Except Fault Identity → InboundPlan
  | .ok obj => next obj
  | .error f => .fail f

/-- Builds an object and ends with it. -/
def finish (run : GuestM Identity) : InboundPlan := .build run (orFail .done)

/-- Wraps a value and ends with the wrapper. -/
def wrap (v : Value) : InboundPlan := .passthrough v .done

/-- Converts values one by one and goes on with their objects. -/
def each (finish : List Identity → InboundPlan) (found : List Identity) : List Value → InboundPlan
  | [] => finish found.reverse
  | v :: vs => .marshal v (orFail fun obj => each finish (obj :: found) vs)

/-- Converts values one by one, wrapping those that raise, and goes on with their objects. -/
def eachSafely (finish : List Identity → InboundPlan) (found : List Identity) : List Value → InboundPlan
  | [] => finish found.reverse
  | v :: vs => .marshalOrPassthrough v fun obj => eachSafely finish (obj :: found) vs

end InboundPlan

/-- The conversion that a recipe describes. -/
def InboundRecipe.plan : InboundRecipe → Value → InboundPlan
  | .passthrough, v => .wrap v
  | .structural, v => .structural v fun
    | some obj => .done obj
    | none => .fail (.valueError "no structural form")
  | .kind, v => .finish (GuestM.string v.kind.name)
  | .tuple, .list items => .each (fun objects => .finish (GuestM.tuple objects)) [] items
  | .tuple, v => .wrap v
  | .safeList, .list items => .eachSafely (fun objects => .finish (GuestM.list objects)) [] items
  | .safeList, _ => .finish (GuestM.list [])
  | .pair, .host ⟨_, .pair a b⟩ => .finish do
    let first ← GuestM.int a.toInt
    GuestM.tuple [first, ← GuestM.int b.toInt]
  | .pair, v => .wrap v
  | .handles, _ => .handleCount fun n => .finish (GuestM.int n)
  | .constant e, _ => .finish (GuestM.objectOf e)
  | .raise r, _ => .fail r.fault

/-- The ready-made conversions of objects. -/
inductive OutboundRecipe where
  | handle
  | parts
  | className
  | again
  | itemsThenRaise
  | safeItems
  | handles
  | constant (v : Value)
  | raise (r : Raise)

namespace OutboundPlan

private def loop (step : Identity → (Except Fault Value → OutboundPlan) → OutboundPlan)
    (finish : List Value → OutboundPlan) : Nat → Cursor → List Value → OutboundPlan
  | 0, _, found => finish found.reverse
  | left + 1, c, found => .advance c fun
    | .error f => .fail f
    | .ok none => finish found.reverse
    | .ok (some (item, c)) => step item fun
      | .error f => .fail f
      | .ok v => loop step finish left c (v :: found)

/-- Takes a step with each item of an object and goes on with the values. -/
def each (step : Identity → (Except Fault Value → OutboundPlan) → OutboundPlan)
    (finish : List Value → OutboundPlan) (id : Identity) : OutboundPlan :=
  .iterate id fun
    | .error f => .fail f
    | .ok c => loop step finish mostItems c []

end OutboundPlan

/-- The conversion that a recipe describes. -/
def OutboundRecipe.plan : OutboundRecipe → Identity → OutboundPlan
  | .handle, id => .handleFor id .done
  | .parts, id => .look fun g =>
    match g.body id with
    | .complex re im => .done (.list [.float re, .float im])
    | _ => .fail (.typeError ("'" ++ g.classTitle id ++ "' object cannot be converted to 'PyComplex'"))
  | .className, id => .look fun g => .done (.string (g.className id))
  | .again, id => .marshal id fun
    | .ok v => .done v
    | .error f => .fail f
  | .itemsThenRaise, id =>
    .each .marshal (fun _ => .fail (.valueError "items_raise")) id
  | .safeItems, id =>
    .each (fun item next => .marshalOrHandle item fun v => next (.ok v)) (fun vs => .done (.list vs)) id
  | .handles, _ => .handleCount fun n => .done (.int (Int64.ofNat n))
  | .constant v, _ => .done v
  | .raise r, _ => .fail r.fault

/-- A converter of host values from a ready-made guard and conversion. -/
def InboundConverter.ofRecipe (name : String) (priority : Int) (guard : InboundGuard)
    (recipe : InboundRecipe) : InboundConverter :=
  ⟨name, priority, guard.accepts, .custom recipe.plan⟩

/-- A converter of objects from a ready-made guard and conversion. -/
def OutboundConverter.ofRecipe (name : String) (priority : Int) (guard : OutboundGuard)
    (recipe : OutboundRecipe) : OutboundConverter :=
  ⟨name, priority, guard.accepts, .custom recipe.plan⟩

end ScriptHost
