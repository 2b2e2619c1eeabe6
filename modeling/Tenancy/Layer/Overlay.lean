import Tenancy.Dict
import Tenancy.Json.Basic

/-!
# Laying settings over settings

A layer sets some leaves of a tree of settings and leaves the others as they are. Where both the
layer and what lies below it have a section, the section is entered; everything else is replaced.
-/

namespace Tenancy.Layer

mutual

/-- A tree of settings under a layer. A section that both have is kept in the order of its keys. -/
def overlay (base : Json) : Json → Json
  | .obj top =>
    match base with
    | .obj members => .obj (overlayMembers (.ofList members) top).entries
    | _ => .obj top
  | top => top

/-- The members of a section under the members of a layer. -/
def overlayMembers (below : Dict Json) : List (String × Json) → Dict Json
  | [] => below
  | (key, v) :: rest =>
    overlayMembers (below.insert key (overlay ((below.get? key).getD .null) v)) rest

end

end Tenancy.Layer
