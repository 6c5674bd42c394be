import ComponentMarkup.Text.Case
import ComponentMarkup.Text.Digest

/-!
# Scope ids

## Main definitions

* `Style.derivedScopeId` — the scope id that a component without a chosen one gets
-/

namespace ComponentMarkup.Style

/-- The scope id that the text of a component's scoped styles gives: equal texts give equal ids. The
letter at the start makes every id a name that a class may have. -/
def derivedScopeId (text : String) : String :=
  let digest := Digest.sha256 text.toUTF8.toList
  "w" ++ String.ofList ((asciiLower (Digest.base64 digest)).toList.take 7)

end ComponentMarkup.Style
