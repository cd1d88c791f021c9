import PromptPacks.Template.Arguments

namespace PromptPacks.Template

/-- A loop in progress: the round it is in, and the arguments with which a
    change was noticed last. -/
structure LoopState where
  index : Nat
  length : Nat
  depth : Nat
  previous : Value
  next : Value
  recursive : Bool
  changed : Option (List Value)

/-- The names that got a value in one round of a loop or in one body with names
    of its own. -/
structure Frame where
  locals : List (String × Value)
  loop : Option LoopState

/-- What names stand for at one place of a template: the open frames, the
    innermost one first, and the values that the template is rendered with. -/
structure Scope where
  context : Context
  frames : List Frame

/-- A calculation that may fail and may give values to names. -/
abbrev Eval := StateT Scope Option

namespace Scope

/-- The loop of the innermost frame with a loop, as a value. -/
def loopValue? : List Frame → Option Value
  | [] => none
  | frame :: outer =>
    match frame.loop with
    | some state =>
      some (.loop outer.length state.index state.length state.depth state.previous state.next)
    | none => loopValue? outer

/-- The value of a name in the innermost frame that has one. -/
def local? (name : String) : List Frame → Option Value
  | [] => none
  | frame :: outer =>
    match frame.locals.lookup name with
    | some value => some value
    | none =>
      if name == "loop" && frame.loop.isSome then loopValue? (frame :: outer)
      else local? name outer

/-- The value of a name. A given value hides the function of the same name. -/
def valueOf (scope : Scope) (name : String) : Value :=
  match local? name scope.frames with
  | some value => value
  | none =>
    match scope.context.get? name with
    | some value => .ofContext value
    | none => if name == "range" then .range else .undefined

def innermostLoop? (scope : Scope) : Option LoopState :=
  scope.frames.findSome? Frame.loop

/-- The depth of a loop that starts here. Only recursive loops count. -/
def nextDepth (scope : Scope) : Nat :=
  match scope.innermostLoop? with
  | some state => if state.recursive then state.depth + 1 else 0
  | none => 0

def mapFrame (change : Frame → Frame) (scope : Scope) : Scope :=
  match scope.frames with
  | [] => scope
  | frame :: outer => { scope with frames := change frame :: outer }

/-- Gives a value to a name in the innermost frame. -/
def assign (name : String) (value : Value) : Scope → Scope :=
  mapFrame fun frame => { frame with locals := (name, value) :: frame.locals }

/-- Changes the loop with some number of frames around it. -/
def mapLoop (level : Nat) (change : LoopState → LoopState) (scope : Scope) : Scope :=
  let index := scope.frames.length - level - 1
  { scope with frames := scope.frames.modify index fun frame =>
      { frame with loop := frame.loop.map change } }

/-- The state of the loop with some number of frames around it. -/
def loopAt? (level : Nat) (scope : Scope) : Option LoopState :=
  (scope.frames[scope.frames.length - level - 1]?).bind Frame.loop

/-- The most frames that may be open when another one is opened. -/
def maxFrames : Nat := 500

def start (context : Context) : Scope :=
  ⟨context, [⟨[], none⟩]⟩

end Scope

namespace Eval

def fail {α : Type} : Eval α := fun _ => none

def ofOption {α : Type} (result : Option α) : Eval α := fun scope =>
  result.map (·, scope)

def framed {α : Type} (body : Eval α) : Eval α := do
  let scope ← get
  if Scope.maxFrames < scope.frames.length then fail
  else
    set { scope with frames := ⟨[], none⟩ :: scope.frames }
    let result ← body
    modify fun scope => { scope with frames := scope.frames.tail }
    return result

def parts? : Value → Option (List Value)
  | .list items => some items
  | .map entries => some (entries.map (·.1))
  | _ => none

mutual

/-- Gives a value to a target. A tuple takes a list of its own length. -/
def bind (value : Value) : Target → Eval Unit
  | .variable name => modify (Scope.assign name value)
  | .property .. => fail
  | .tuple targets => do
    let items ← ofOption (parts? value)
    bindAll items targets

/-- Gives each of some values to one of the targets. -/
def bindAll (values : List Value) : List Target → Eval Unit
  | [] => if values.isEmpty then pure () else fail
  | target :: rest => do
    match values with
    | [] => fail
    | value :: others =>
      bind value target
      bindAll others rest

end

/-- The items that satisfy a condition on the target they are given to. -/
def keepWhere (target : Target) (test : Eval Bool) : List Value → Eval (List Value)
  | [] => pure []
  | item :: rest => do
    modify (Scope.mapFrame fun frame => { frame with locals := [] })
    bind item target
    let holds ← test
    let kept ← keepWhere target test rest
    return if holds then item :: kept else kept

/-- The output of all rounds of a loop from the given one on. A round knows no
    names of the earlier ones. -/
def rounds (run : Eval (List Char)) (target : Target) (recursive : Bool) (length depth : Nat) :
    Nat → Value → List Value → Eval (List Char)
  | _, _, [] => pure []
  | index, previous, item :: rest => do
    let next := rest.head?.getD .undefined
    modify (Scope.mapFrame fun frame =>
      let changed := frame.loop.bind LoopState.changed
      ⟨[], some ⟨index, length, depth, previous, next, recursive, changed⟩⟩)
    bind item target
    let output ← run
    return output ++ (← rounds run target recursive length depth (index + 1) item rest)

/-- The output of a loop over some items. The body is given the loop itself, to
    go over the items of another value, if it is recursive; no more than
    `levels` loops are open at one time. -/
def loopOver (run : Option (Value → Eval (List Char)) → Eval (List Char)) (target : Target)
    (recursive : Bool) : Nat → List Value → Eval (List Char)
  | 0, _ => fail
  | levels + 1, items => do
    let descend := fun value => do
      loopOver run target recursive levels (← ofOption (Value.items? value))
    let depth := (← get).nextDepth
    framed (rounds (run (if recursive then some descend else none)) target recursive items.length
      depth 0 .undefined items)

/-- Whether the arguments of a loop's question for changes differ from those
    before. -/
def noteChange (level : Nat) (values : List Value) : Eval Value := do
  let state ← ofOption ((← get).loopAt? level)
  if (state.changed.map (Value.areEqual values)).getD false then return .bool false
  else
    modify (Scope.mapLoop level fun state => { state with changed := some values })
    return .bool true

end Eval

end PromptPacks.Template
