import ComponentMarkup.Style.Scope

/-!
# What scoping gets to

A style sheet as it is written is taken apart into the selector lists of its style rules and the
text between them. Scoping changes selector lists only, each selector once, and only in rules that
it gets to: those at the top and in groups whose rules it is applied to. Style rules inside of style
rules are about what the outer rule is about, and are part of its block.

## Main definitions

* `Piece` — a selector list or a text between two
* `outline`, `outlineAll` — rules as they are written, in pieces
* `Piece.whereReached`, `Piece.everywhere` — pieces under a scope, those that scoping gets to, and
  all
* `Rule.standsAlone` — a rule that can stand outside of style rules

## Main results

* `printed_outlineAll` — the pieces are what is written
* `scopedRules_eq_printed` — scoping is scoping piece by piece
* `allStandAlone_of_sheet?` — what stands outside of style rules in a sheet that can be read
-/

namespace ComponentMarkup.Style

/-! ### Pieces -/

/-- A part of a style sheet as it is written. -/
inductive Piece
  /-- The selectors of a style rule that is in no other, and whether scoping gets to the rule. -/
  | selectors (isReached : Bool) (texts : List String)
  | plain (text : String)

namespace Piece

/-- A piece as it is written. -/
def text : Piece → String
  | selectors _ texts => ",".intercalate texts
  | plain text => text

/-- A piece with its selectors under a scope if scoping gets to them. -/
def whereReached (scope : String) : Piece → Piece
  | selectors true texts => selectors true (texts.map (scopedSelector scope))
  | p => p

/-- A piece with its selectors under a scope. -/
def everywhere (scope : String) : Piece → Piece
  | selectors isReached texts => selectors isReached (texts.map (scopedSelector scope))
  | p => p

end Piece

/-- The text of pieces. -/
def printed (pieces : List Piece) : String := String.join (pieces.map Piece.text)

@[simp] theorem printed_nil : printed [] = "" := rfl

@[simp] theorem printed_cons (p : Piece) (ps : List Piece) :
    printed (p :: ps) = p.text ++ printed ps := by
  simp [printed]

@[simp] theorem printed_append (ps qs : List Piece) :
    printed (ps ++ qs) = printed ps ++ printed qs := by
  simp [printed]

mutual

/-- A rule in pieces. `isReached` is whether scoping gets to it. -/
def outline (isReached : Bool) : Rule → List Piece
  | .style selectors own rules =>
    [.selectors isReached (selectors.map selectorText), .plain (blockText own rules)]
  | .group g rules =>
    if g.isTransparent then outlineAll (isReached && g.isScoped) rules
    else
      .plain (g.heading ++ "\x7b") :: outlineAll (isReached && g.isScoped) rules ++ [.plain "\x7d"]
  | r => [.plain (ruleText r)]
termination_by structural r => r

/-- Rules in pieces. -/
def outlineAll (isReached : Bool) : List Rule → List Piece
  | [] => []
  | r :: rules =>
    outline isReached r ++ (if r.isBare && !rules.isEmpty then [.plain ";"] else []) ++
      outlineAll isReached rules
termination_by structural rules => rules

end

theorem relativeText_false (s : Selector) : relativeText false s = selectorText s := by
  cases s <;> simp [relativeText, selectorText]

/-- Selectors have commas between them. -/
theorem selectorListText_eq (selectors : List Selector) :
    selectorListText selectors = ",".intercalate (selectors.map selectorText) := by
  unfold selectorListText
  induction selectors with
  | nil => rfl
  | cons s more ih =>
    rw [selectorsText, relativeText_false, ih]
    cases more with
    | nil => simp
    | cons t rest => simp [String.append_assoc]

mutual

/-- A rule in pieces is the rule as it is written. -/
theorem printed_outline (isReached : Bool) (r : Rule) :
    printed (outline isReached r) = ruleText r := by
  cases r with
  | style selectors own rules =>
    simp [outline, ruleText, Piece.text, selectorListText_eq, blockText]
  | nest selectors own rules => simp [outline, Piece.text]
  | group g rules =>
    have inner := printed_outlineAll (isReached && g.isScoped) rules
    rw [outline, ruleText, Group.wrap]
    split <;> simp [inner, Piece.text, String.append_assoc]
  | declarations own => simp [outline, Piece.text]
  | other text => simp [outline, Piece.text]
termination_by structural r

/-- Rules in pieces are the rules as they are written. -/
theorem printed_outlineAll (isReached : Bool) (rules : List Rule) :
    printed (outlineAll isReached rules) = rulesText rules := by
  cases rules with
  | nil => rfl
  | cons r rules =>
    have first := printed_outline isReached r
    have rest := printed_outlineAll isReached rules
    rw [outlineAll, rulesText]
    split <;> simp [first, rest, Piece.text, String.append_assoc]
termination_by structural rules

end

/-! ### Scoping, piece by piece -/

mutual

/-- Whether a rule, with those in its groups, can stand outside of style rules. -/
def Rule.standsAlone : Rule → Bool
  | .declarations _ => false
  | .group _ rules => allStandAlone rules
  | _ => true
termination_by structural r => r

/-- Whether rules can stand outside of style rules. -/
def allStandAlone : List Rule → Bool
  | [] => true
  | r :: rules => r.standsAlone && allStandAlone rules
termination_by structural rules => rules

end

theorem allStandAlone_eq_all (rules : List Rule) :
    allStandAlone rules = rules.all Rule.standsAlone := by
  induction rules with
  | nil => rfl
  | cons r rules ih => rw [allStandAlone, ih, List.all_cons]

theorem Rule.isBare_of_standsAlone {r : Rule} (alone : r.standsAlone = true) :
    r.isBare = false := by
  cases r <;> first | rfl | exact nomatch alone

mutual

/-- Where scoping does not get to, it changes nothing. -/
theorem map_whereReached_outline (scope : String) (r : Rule) :
    (outline false r).map (.whereReached scope) = outline false r := by
  cases r with
  | group g rules =>
    have inner := map_whereReached_outlineAll scope rules
    rw [outline]
    split <;> simp [inner, Piece.whereReached]
  | style selectors own rules => rfl
  | nest selectors own rules => rfl
  | declarations own => rfl
  | other text => rfl
termination_by structural r

theorem map_whereReached_outlineAll (scope : String) (rules : List Rule) :
    (outlineAll false rules).map (.whereReached scope) = outlineAll false rules := by
  cases rules with
  | nil => rfl
  | cons r rules =>
    have first := map_whereReached_outline scope r
    have rest := map_whereReached_outlineAll scope rules
    rw [outlineAll]
    split <;> simp [first, rest, Piece.whereReached]
termination_by structural rules

end

mutual

/-- A rule under a scope is what is written of it, with its selectors under the scope where scoping
gets to. -/
theorem scopedRule_eq_printed (scope : String) (r : Rule) (alone : r.standsAlone = true) :
    scopedRule scope r = printed ((outline true r).map (.whereReached scope)) := by
  cases r with
  | style selectors own rules =>
    simp [scopedRule, outline, Piece.whereReached, Piece.text, Function.comp_def]
  | group g rules =>
    have inner := scopedRules_eq_printed scope rules alone
    -- A group that scoping passes over is written as it is, and so are its pieces.
    have kept := map_whereReached_outlineAll scope rules
    rw [scopedRule, outline, Group.wrap]
    cases g.isScoped <;> split <;>
      simp [inner, kept, printed_outlineAll, Piece.whereReached, Piece.text, String.append_assoc]
  | nest selectors own rules => simp [scopedRule, outline, Piece.whereReached, Piece.text]
  | declarations own => exact nomatch alone
  | other text => simp [scopedRule, outline, Piece.whereReached, Piece.text]
termination_by structural r

/-- Rules under a scope are what is written of them, with their selectors under the scope where
scoping gets to. -/
theorem scopedRules_eq_printed (scope : String) (rules : List Rule)
    (alone : allStandAlone rules = true) :
    scopedRules scope rules = printed ((outlineAll true rules).map (.whereReached scope)) := by
  cases rules with
  | nil => rfl
  | cons r rules =>
    obtain ⟨self, others⟩ := Bool.and_eq_true_iff.mp alone
    have first := scopedRule_eq_printed scope r self
    have rest := scopedRules_eq_printed scope rules others
    rw [scopedRules, outlineAll, first, rest]
    simp [Rule.isBare_of_standsAlone self]
termination_by structural rules

end

/-! ### Rules of a sheet that can be read -/

/-- What stands outside of style rules: no declarations, and rules that can stand there. -/
structure Body.IsOutermost (b : Body) : Prop where
  own_eq : b.own = []
  alone : ∀ r ∈ b.latest, r.standsAlone = true

/-- Outside of style rules, what stands in brackets is read as what can stand there. -/
def ReadBody.IsOutermost (read : ReadBody) : Prop :=
  ∀ parts b, read false parts = some b → b.IsOutermost

variable {read : ReadBody} {rule : Rule}

theorem Body.isOutermost_empty : ({} : Body).IsOutermost := ⟨rfl, by simp⟩

theorem Body.IsOutermost.addRule {b : Body} (outermost : b.IsOutermost) {r : Rule}
    (alone : r.standsAlone = true) : (b.addRule r).IsOutermost where
  own_eq := outermost.own_eq
  alone := List.forall_mem_cons.mpr ⟨alone, outermost.alone⟩

theorem Body.IsOutermost.allStandAlone_asRules {b : Body} (outermost : b.IsOutermost) :
    allStandAlone b.asRules = true := by
  rw [asRules, outermost.own_eq, allStandAlone_eq_all, List.all_eq_true]
  intro r listed
  exact outermost.alone r (List.mem_reverse.mp listed)

namespace AtRule

variable {r : AtRule}

theorem standsAlone_of_group? (outermost : read.IsOutermost) {g : Option Group}
    (found : r.group? read false g = some rule) : rule.standsAlone = true := by
  obtain ⟨g, _, found⟩ := Option.bind_eq_some_iff.mp found
  obtain ⟨b, inside, same⟩ := Option.bind_eq_some_iff.mp found
  obtain rfl : Rule.group g b.asRules = rule := Option.some.inj same
  obtain ⟨parts, _, isRead⟩ := Option.bind_eq_some_iff.mp inside
  exact (outermost parts b isRead).allStandAlone_asRules

theorem standsAlone_of_layer? (outermost : read.IsOutermost)
    (found : r.layer? read false = some rule) : rule.standsAlone = true := by
  unfold layer? at found
  extract_lets names at found
  split at found
  · exact standsAlone_of_group? outermost found
  · exact standsAlone_of_group? outermost found
  · rw [← Option.some.inj found]
    rfl
  · exact nomatch found

theorem standsAlone_of_described? {keyword : String} {title : Option String}
    (found : r.described? keyword title = some rule) : rule.standsAlone = true := by
  obtain ⟨_, _, found⟩ := Option.bind_eq_some_iff.mp found
  obtain ⟨_, _, same⟩ := Option.bind_eq_some_iff.mp found
  rw [← Option.some.inj same]
  rfl

theorem standsAlone_of_unknown? (found : r.unknown? = some rule) : rule.standsAlone = true := by
  obtain ⟨_, _, found⟩ := Option.bind_eq_some_iff.mp found
  extract_lets heading at found
  split at found
  · rw [← Option.some.inj found]
    rfl
  · obtain ⟨_, _, same⟩ := Option.bind_eq_some_iff.mp found
    rw [← Option.some.inj same]
    rfl

/-- A rule with a block of its own kind is written as it is. -/
theorem standsAlone_of_bind_map {α : Type} {text : α → String} {read : List Part → Option α}
    (found : (r.block.bind fun body => (read body).map fun a => Rule.other (text a)) = some rule) :
    rule.standsAlone = true := by
  obtain ⟨_, _, found⟩ := Option.bind_eq_some_iff.mp found
  obtain ⟨_, _, same⟩ := Option.map_eq_some_iff.mp found
  rw [← same]
  rfl

theorem standsAlone_of_nested? (outermost : read.IsOutermost)
    (found : r.nested? read false = some rule) : rule.standsAlone = true := by
  unfold nested? at found
  simp only [Bool.false_and, Bool.false_eq_true, if_false] at found
  split at found
  · exact standsAlone_of_bind_map found
  · split at found
    · exact standsAlone_of_group? outermost found
    · exact standsAlone_of_group? outermost found
    · exact standsAlone_of_group? outermost found
    · exact standsAlone_of_layer? outermost found
    · exact standsAlone_of_group? outermost found
    · exact standsAlone_of_group? outermost found
    · exact standsAlone_of_group? outermost found
    · exact standsAlone_of_unknown? found
    · obtain ⟨_, _, found⟩ := Option.bind_eq_some_iff.mp found
      obtain ⟨_, _, same⟩ := Option.bind_eq_some_iff.mp found
      rw [← Option.some.inj same]
      rfl
    · exact standsAlone_of_bind_map found
    · exact standsAlone_of_bind_map found
    · exact standsAlone_of_described? found
    · exact standsAlone_of_described? found
    · exact standsAlone_of_described? found
    · exact standsAlone_of_described? found
    · exact standsAlone_of_described? found
    · exact standsAlone_of_unknown? found

end AtRule

theorem standsAlone_of_takeStyleRule {inStyle : Bool} {parts after : List Part}
    (found : takeStyleRule read inStyle parts = some (rule, after)) : rule.standsAlone = true := by
  unfold takeStyleRule at found
  obtain ⟨_, _, found⟩ := Option.bind_eq_some_iff.mp found
  obtain ⟨_, _, found⟩ := Option.bind_eq_some_iff.mp found
  obtain ⟨_, _, same⟩ := Option.bind_eq_some_iff.mp found
  rw [← (Prod.mk.inj (Option.some.inj same)).1]
  rfl

theorem isOutermost_of_readEntries (outermost : read.IsOutermost) {count : Nat} {b b' : Body}
    {parts : List Part} (start : b.IsOutermost)
    (found : readEntries read false count b parts = some b') : b'.IsOutermost := by
  induction count generalizing b parts with
  | zero => exact Option.some.inj found ▸ start
  | succ count ih =>
    unfold readEntries at found
    split at found
    · exact Option.some.inj found ▸ start
    · obtain ⟨rule, isRule, found⟩ := Option.bind_eq_some_iff.mp found
      exact ih (start.addRule (AtRule.standsAlone_of_nested? outermost isRule)) found
    · -- Declarations are read in style rules only, so what is left is a style rule.
      simp only [Bool.false_eq_true, if_false] at found
      split at found
      · rename_i isRule
        exact ih (start.addRule (standsAlone_of_takeStyleRule isRule)) found
      · exact nomatch found

theorem isOutermost_readBody (depth : Nat) : (readBody depth).IsOutermost := by
  induction depth with
  | zero => exact fun _ _ found => nomatch found
  | succ depth ih =>
    exact fun _ _ found => isOutermost_of_readEntries ih Body.isOutermost_empty found

/-- The rule at the top of a sheet that starts with `@`, if it says something, can stand there. -/
theorem standsAlone_of_topRule? (outermost : read.IsOutermost) {stage stage' : Stage} {r : AtRule}
    {rule? : Option Rule} (found : topRule? read stage r = some (rule?, stage')) :
    ∀ rule ∈ rule?, rule.standsAlone = true := by
  have other {texts : Option String} {later : Stage} (same :
      texts.map (fun text => (some (Rule.other text), later)) = some (rule?, stage')) :
      ∀ rule ∈ rule?, rule.standsAlone = true := by
    obtain ⟨text, _, same⟩ := Option.map_eq_some_iff.mp same
    rintro rule listed
    obtain ⟨rfl, -⟩ := Prod.mk.inj same
    obtain rfl := Option.some.inj listed
    rfl
  unfold topRule? at found
  split at found
  · split at found
    · exact other found
    · exact nomatch found
  · split at found
    · exact other found
    · exact nomatch found
  · obtain ⟨_, _, same⟩ := Option.map_eq_some_iff.mp found
    obtain ⟨rfl, -⟩ := Prod.mk.inj same
    exact nofun
  · exact nomatch found
  · exact nomatch found
  · exact nomatch found
  · obtain ⟨rule, isRule, same⟩ := Option.map_eq_some_iff.mp found
    obtain ⟨rfl, -⟩ := Prod.mk.inj same
    rintro rule' listed
    obtain rfl := Option.some.inj listed
    exact AtRule.standsAlone_of_nested? outermost isRule

theorem allStandAlone_of_topRules (outermost : read.IsOutermost) {count : Nat} {isFirst : Bool}
    {stage : Stage} {parts : List Part} {rules : List Rule}
    (found : topRules read count isFirst stage parts = some rules) :
    allStandAlone rules = true := by
  rw [allStandAlone_eq_all, List.all_eq_true]
  induction count generalizing isFirst stage parts rules with
  | zero =>
    obtain rfl := Option.some.inj found
    exact nofun
  | succ count ih =>
    unfold topRules at found
    split at found
    · obtain rfl := Option.some.inj found
      exact nofun
    · split at found
      · exact ih found
      · obtain ⟨⟨rule?, stage'⟩, isRule, found⟩ := Option.bind_eq_some_iff.mp found
        obtain ⟨more, isMore, same⟩ := Option.bind_eq_some_iff.mp found
        obtain rfl := Option.some.inj same
        intro rule listed
        rcases List.mem_append.mp listed with here | later
        · exact standsAlone_of_topRule? outermost isRule rule (Option.mem_toList.mp here)
        · exact ih isMore rule later
    · obtain ⟨⟨rule, after⟩, isRule, found⟩ := Option.bind_eq_some_iff.mp found
      obtain ⟨more, isMore, same⟩ := Option.bind_eq_some_iff.mp found
      obtain rfl := Option.some.inj same
      exact List.forall_mem_cons.mpr ⟨standsAlone_of_takeStyleRule isRule, ih isMore⟩

/-- All rules of a sheet that can be read can stand outside of style rules. -/
theorem allStandAlone_of_sheet? {css : String} {rules : List Rule}
    (found : sheet? css = some rules) :
    allStandAlone rules = true :=
  allStandAlone_of_topRules (isOutermost_readBody _) found

end ComponentMarkup.Style
