import ScriptHost.Guest.Arguments
import ScriptHost.Guest.Linearization

/-! What a class extends: the order in which the classes behind it are asked for attributes, the one of
them that decides how its objects are laid out, and the class that makes it. -/
namespace ScriptHost.GuestM

def nameList (classes : List Identity) : GuestM String := do
  let g ← get
  return ", ".intercalate (classes.map g.nameOfClass)

/-- The classes behind a class, in the order in which they are asked for attributes. -/
def ancestorsOf (bases : List Identity) : GuestM (List Identity) := do
  match bases with
  | [base] => orderOf base
  | _ =>
    let seen := bases.foldl (fun (seen : List Identity × Option Identity) base =>
      if seen.1.contains base then (seen.1, seen.2.or (some base)) else (base :: seen.1, seen.2)) ([], Option.none)
    if let some base := seen.2 then typeError ("duplicate base class " ++ (← get).nameOfClass base)
    match Linearization.merge ((← bases.mapM orderOf) ++ [bases]) with
    | .ok order => return order
    | .error leading =>
      typeError ("Cannot create a consistent method resolution\norder (MRO) for bases " ++ (← nameList leading))

/-- The nearest class, from a class on, that decides how objects are laid out. -/
def solidClass : Nat → Identity → GuestM Identity
  | 0, class? => return class?
  | depth + 1, class? => do
    match ← bodyOf class? with
    | .classObject made => if made.addsPlaces then return class? else solidClass depth made.base
    | .builtin own => builtin (Builtin.solid own)
    | _ => return class?

/-- The one of the classes that a class extends which decides how its objects are laid out. -/
def mainBase (bases : List Identity) : GuestM Identity := do
  let better (best : Identity × Identity) (base : Identity) : GuestM (Identity × Identity) := do
    let g ← get
    if !g.isClassObject base then typeError "bases must be types"
    if let .builtin name := g.body base then
      if Builtin.isFinal name then typeError ("type '" ++ name ++ "' is not an acceptable base type")
    let solid ← solidClass 1000 base
    let g ← get
    if g.isSubclass best.2 solid then return best
    else if g.isSubclass solid best.2 then return (base, solid)
    else typeError "multiple bases have instance lay-out conflict"
  match bases with
  | [] => builtin "object"
  | first :: rest =>
    let (_, solid) ← better (first, ← builtin "object") first
    return (← rest.foldlM better (first, solid)).1

/-- The first exception class among the ancestors of a class, where its objects hold what the layout says. -/
def nearestException (g : Guest) (layout : String) (ancestors : List Identity) : String :=
  let nearest? := ancestors.findSome? fun ancestor => match g.body ancestor with
    | .builtin own => if Builtin.isException own then some own else Option.none
    | _ => Option.none
  (nearest?.filter fun own => Builtin.isException layout && Builtin.solid own == Builtin.solid layout).getD layout

/-- The class that makes a class which extends some others. -/
def makerFor (maker : Identity) (bases : List Identity) : GuestM Identity := do
  let narrower (maker base : Identity) : GuestM Identity := do
    let class? ← classOf base
    let g ← get
    if g.isSubclass maker class? then return maker
    else if g.isSubclass class? maker then return class?
    else typeError ("metaclass conflict: the metaclass of a derived class must be a (non-strict) subclass " ++
      "of the metaclasses of all its bases")
  bases.foldlM narrower maker

/-- The class whose data the objects of a class hold that extends others. -/
def layoutOver (g : Guest) (base : Identity) (ancestors : List Identity) : String :=
  let layout := g.layoutOf base
  nearestException g (if Builtin.newcomerOf layout = "object" && layout ≠ "Opaque" then "object" else layout) ancestors

/-- Whether attributes of any name can be set on the objects of a class. -/
def isOpenClass (g : Guest) (class? : Identity) : Bool :=
  match g.body class? with
  | .classObject made => made.isOpen
  | .builtin own =>
    Builtin.isException own || ["type", "Opaque", "module", "ABCMeta", "staticmethod", "classmethod"].contains own
  | _ => false

end ScriptHost.GuestM
