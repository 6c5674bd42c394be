import ComponentMarkup.Style.Reader

/-!
# Pseudo-classes and pseudo-elements

The names of the pseudo-classes and pseudo-elements that are known. Known names are written in lower
case, others as they are.

## Main definitions

* `Style.stateText` — a pseudo-class as it is written
* `Style.elementText`, `Style.isKnownElement` — pseudo-elements
* `Style.isUserAction`, `Style.followsScrollbar` — the pseudo-classes of pseudo-elements
-/

namespace ComponentMarkup.Style

/-! ### Pseudo-classes -/

/-- Pseudo-classes about what a user does with an element. -/
def userActions : List String := ["active", "hover", "focus", "focus-within", "focus-visible"]

/-- Pseudo-classes about the place of an element among others. -/
def structuralStates : List String :=
  ["first-child", "last-child", "only-child", "first-of-type", "last-of-type", "only-of-type",
    "root", "empty", "host"]

/-- Pseudo-classes about the parts of scrollbars. -/
def scrollbarStates : List String :=
  ["horizontal", "vertical", "decrement", "increment", "start", "end", "double-button",
    "single-button", "no-button", "corner-present", "window-inactive"]

/-- Other pseudo-classes. -/
def otherStates : List String :=
  ["current", "past", "future", "playing", "paused", "seeking", "buffering", "stalled", "muted",
    "volume-locked", "fullscreen", "-webkit-full-screen", "-moz-full-screen", "-ms-fullscreen",
    "open", "closed", "modal", "picture-in-picture", "popover-open", "defined", "any-link",
    "-webkit-any-link", "-moz-any-link", "link", "local-link", "target", "target-within",
    "visited", "enabled", "disabled", "read-only", "-moz-read-only", "read-write",
    "-moz-read-write", "placeholder-shown", "-moz-placeholder-shown", "-ms-placeholder-shown",
    "default", "checked", "indeterminate", "blank", "valid", "invalid", "in-range",
    "out-of-range", "required", "optional", "user-valid", "user-invalid", "autofill",
    "-webkit-autofill", "-o-autofill", "active-view-transition"]

/-- Whether a name in lower case is that of a pseudo-class about what a user does. -/
def isUserAction (name : String) : Bool := userActions.contains name

/-- Whether a name in lower case is that of a pseudo-class that the parts of scrollbars have. -/
def followsScrollbar (name : String) : Bool :=
  scrollbarStates.contains name || ["enabled", "disabled", "hover", "active"].contains name

/-- A pseudo-class as it is written. -/
def stateText (name : String) : String :=
  let known := userActions ++ structuralStates ++ scrollbarStates ++ otherStates
  ":" ++ if known.contains (lower name) then lower name else name

/-! ### Pseudo-elements -/

/-- Pseudo-elements that have been written with one colon. -/
def singleColonElements : List String := ["before", "after", "first-line", "first-letter"]

/-- Pseudo-elements of scrollbars. -/
def scrollbarElements : List String :=
  ["-webkit-scrollbar", "-webkit-scrollbar-button", "-webkit-scrollbar-track",
    "-webkit-scrollbar-track-piece", "-webkit-scrollbar-thumb", "-webkit-scrollbar-corner",
    "-webkit-resizer"]

/-- Other pseudo-elements. -/
def otherElements : List String :=
  ["details-content", "target-text", "cue", "cue-region", "search-text", "selection",
    "-moz-selection", "placeholder", "-webkit-input-placeholder", "-moz-placeholder",
    "-ms-input-placeholder", "marker", "backdrop", "-webkit-backdrop", "file-selector-button",
    "-webkit-file-upload-button", "-ms-browse", "view-transition", "grammar-error",
    "spelling-error", "picker-icon", "checkmark"]

/-- Whether a name in lower case is that of a pseudo-element that is known. -/
def isKnownElement (name : String) : Bool :=
  singleColonElements.contains name || scrollbarElements.contains name ||
    otherElements.contains name

/-- Whether a pseudo-element in lower case can follow what is put into a slot. -/
def followsSlotted (name : String) : Bool :=
  ["before", "after", "marker", "placeholder", "-webkit-input-placeholder", "-moz-placeholder",
    "-ms-input-placeholder", "file-selector-button", "-webkit-file-upload-button",
    "-ms-browse"].contains name

/-- A pseudo-element as it is written. -/
def elementText (name : String) : String :=
  if singleColonElements.contains (lower name) then ":" ++ lower name
  else if isKnownElement (lower name) then "::" ++ lower name
  else "::" ++ name

end ComponentMarkup.Style
