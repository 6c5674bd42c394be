import ComponentMarkup.Proofs.Entries
import ComponentMarkup.Proofs.Script.Demand

/-!
# What patterns write

Binding a pattern never looks at the frame that it writes to. It gives values to its names, one
after the other, and these are the same for every frame; or it is refused for every frame and every
value, because of a default value or a key that is computed. So a pattern and a value have a list of
pairs, and the frame gets them as a dictionary gets further entries.

Patterns that are bound one after the other, each with a value of its own, are an assignment. The
parameters of a function are one, and so are the properties of an object pattern.

## Main definitions

* `Pattern.IsSupported` — patterns without default values and computed keys
* `Writes` — the same pairs to every frame, or the same refusal
* `bindEach` — patterns that are bound one after the other

## Main results

* `Pattern.writes` — a pattern writes its names, or is refused if it is not supported
-/

namespace ComponentMarkup.Script

/-! ### Supported patterns -/

mutual

/-- A pattern without default values, all of whose keys have names. -/
def Pattern.IsSupported : Pattern → Prop
  | .name _ => True
  | .object properties rest => TargetsSupported properties ∧ OptionPatternSupported rest
  | .array elements rest => SlotsSupported elements ∧ OptionPatternSupported rest
  | .withDefault _ _ => False
termination_by structural p => p

def OptionPatternSupported : Option Pattern → Prop
  | none => True
  | some p => p.IsSupported
termination_by structural p => p

def TargetsSupported : List Target → Prop
  | [] => True
  | t :: ts => t.IsSupported ∧ TargetsSupported ts
termination_by structural ts => ts

def Target.IsSupported : Target → Prop
  | .named _ target => target.IsSupported
  | .computed none _ _ => False
  | .computed (some _) _ target => target.IsSupported
termination_by structural t => t

def SlotsSupported : List Slot → Prop
  | [] => True
  | s :: ss => s.IsSupported ∧ SlotsSupported ss
termination_by structural ss => ss

def Slot.IsSupported : Slot → Prop
  | .hole => True
  | .target p => p.IsSupported
termination_by structural s => s

end

/-! ### What is written -/

/-- If it is supported, writes values for some names, in this order, the same to every frame; else
it is refused as unsupported, whatever the frame. -/
inductive Writes (supported : Prop) (names : List String)
  (r : Entries Value → Except Failure (Entries Value)) : Prop
  | refused (isNot : ¬supported) (f : Failure) (unsupported : f.kind = .unsupported)
    (always : ∀ frame, r frame = .error f)
  | written (isSupported : supported) (pairs : Entries Value) (named : pairs.keys = names)
    (always : ∀ frame, r frame = .ok (Entries.extend frame pairs))

namespace Writes

variable {supported supported' : Prop} {names names' : List String}
  {r r' : Entries Value → Except Failure (Entries Value)}

theorem nothing : Writes True [] .ok := .written trivial [] rfl fun _ => rfl

/-- What is written one after the other is written together, if both are supported. -/
theorem append (first : Writes supported names r) (rest : Writes supported' names' r') :
    Writes (supported ∧ supported') (names ++ names') fun frame => r frame >>= r' := by
  cases first with
  | refused isNot f unsupported always =>
    refine .refused (fun both => isNot both.1) f unsupported fun frame => ?_
    rw [always]
    rfl
  | written isSupported pairs named always =>
    cases rest with
    | refused isNot f unsupported always' =>
      refine .refused (fun both => isNot both.2) f unsupported fun frame => ?_
      rw [always]
      exact always' _
    | written isSupported' pairs' named' always' =>
      refine .written ⟨isSupported, isSupported'⟩ (pairs ++ pairs') ?_ fun frame => ?_
      · rw [Entries.keys_append, named, named']
      · rw [always, Entries.extend_append]
        exact always' _

theorem congr (writes : Writes supported names r) (same : ∀ frame, r' frame = r frame) :
    Writes supported names r' := by
  obtain rfl : r' = r := funext same
  exact writes

/-- What is accepted has written its pairs. -/
theorem exists_of_eq_ok {frame frame' : Entries Value} (writes : Writes supported names r)
    (accepted : r frame = .ok frame') :
    ∃ pairs : Entries Value, pairs.keys = names ∧
      ∀ frame, r frame = .ok (Entries.extend frame pairs) := by
  cases writes with
  | refused isNot f unsupported always => exact nomatch (always frame).symm.trans accepted
  | written isSupported pairs named always => exact ⟨pairs, named, always⟩

/-- What is supported is accepted, and nothing else is. -/
theorem accepted_iff (writes : Writes supported names r) (frame : Entries Value) :
    (∃ frame', r frame = .ok frame') ↔ supported := by
  cases writes with
  | refused isNot f unsupported always =>
    constructor
    · rintro ⟨frame', accepted⟩
      exact nomatch (always frame).symm.trans accepted
    · exact fun isSupported => absurd isSupported isNot
  | written isSupported pairs named always =>
    exact ⟨fun _ => isSupported, fun _ => ⟨_, always frame⟩⟩

end Writes

/-! ### Patterns -/

-- The induction follows the syntax. What the properties of an object pattern leave of the object
-- does not depend on the frame either, so that it can be said beside what they write.
mutual

/-- A pattern writes its names in order, or it is refused as unsupported. -/
theorem Pattern.writes (p : Pattern) (v : Value) : Writes p.IsSupported p.names (p.bind v) := by
  cases p with
  | name id => exact .written trivial [(id, v)] rfl fun _ => rfl
  | object properties rest =>
    obtain ⟨left, r, writes, same⟩ := writes_bindTargets properties v.fields
    refine (writes.append (writes_bindRest rest (.record left))).congr fun frame => ?_
    rw [Pattern.bind, same]
    cases r frame <;> rfl
  | array elements rest =>
    exact (writes_bindSlots elements _).append (writes_bindRest rest _)
  | withDefault target default => exact .refused id .defaultInPattern rfl fun _ => rfl
termination_by structural p

theorem writes_bindRest (p : Option Pattern) (v : Value) :
    Writes (OptionPatternSupported p) (optionPatternNames p) (bindRest p v) := by
  cases p with
  | none => exact .nothing
  | some p => exact p.writes v
termination_by structural p

theorem writes_bindTargets (ts : List Target) (left : Entries Value) :
    ∃ left' r, Writes (TargetsSupported ts) (targetsNames ts) r ∧
      ∀ frame, bindTargets ts left frame = (r frame).map (left', ·) := by
  cases ts with
  | nil => exact ⟨left, .ok, .nothing, fun _ => rfl⟩
  | cons t ts =>
    obtain ⟨between, r, first, same⟩ := t.writes_bindTarget left
    obtain ⟨left', r', rest, same'⟩ := writes_bindTargets ts between
    refine ⟨left', _, first.append rest, fun frame => ?_⟩
    rw [bindTargets, same]
    cases r frame with
    | error f => rfl
    | ok frame => exact same' frame
termination_by structural ts

theorem Target.writes_bindTarget (t : Target) (left : Entries Value) :
    ∃ left' r, Writes t.IsSupported t.names r ∧
      ∀ frame, bindTarget t left frame = (r frame).map (left', ·) := by
  cases t with
  | named key target => exact ⟨_, _, target.writes _, fun _ => rfl⟩
  | computed literal key target =>
    cases literal with
    | none =>
      exact ⟨left, fun _ => .error .computedKeyInPattern, .refused id _ rfl fun _ => rfl,
        fun _ => rfl⟩
    | some name => exact ⟨_, _, target.writes _, fun _ => rfl⟩
termination_by structural t

theorem writes_bindSlots (ss : List Slot) (items : List Value) :
    Writes (SlotsSupported ss) (slotsNames ss) (bindSlots ss items) := by
  cases ss with
  | nil => exact .nothing
  | cons s ss => exact (s.writes_bindSlot _).append (writes_bindSlots ss _)
termination_by structural ss

theorem Slot.writes_bindSlot (s : Slot) (v : Value) :
    Writes s.IsSupported s.names (bindSlot s v) := by
  cases s with
  | hole => exact .nothing
  | target p => exact p.writes v
termination_by structural s

end

/-! ### Assignments -/

/-- Binds patterns one after the other, each to its own value. -/
def bindEach (assignment : List (Pattern × Value)) (frame : Entries Value) :
    Except Failure (Entries Value) :=
  assignment.foldlM (fun frame part => part.1.bind part.2 frame) frame

theorem bindEach_cons (p : Pattern) (v : Value) (assignment : List (Pattern × Value))
    (frame : Entries Value) :
    bindEach ((p, v) :: assignment) frame = p.bind v frame >>= bindEach assignment := rfl

theorem bindEach_append (first rest : List (Pattern × Value)) (frame : Entries Value) :
    bindEach (first ++ rest) frame = bindEach first frame >>= bindEach rest :=
  List.foldlM_append

theorem writes_bindEach (assignment : List (Pattern × Value)) :
    Writes (∀ part ∈ assignment, part.1.IsSupported)
      (assignment.flatMap fun part => part.1.names) (bindEach assignment) := by
  induction assignment with
  | nil => exact .written nofun [] rfl fun _ => rfl
  | cons part assignment ih =>
    rw [List.forall_mem_cons]
    exact (part.1.writes part.2).append ih

end ComponentMarkup.Script
