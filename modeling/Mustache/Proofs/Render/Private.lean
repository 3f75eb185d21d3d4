import Mustache.Proofs.Render.Twins
import Mustache.Proofs.Scope.Alike

/-!
# Private members do not show

Templates cannot ask for private members, so data that differ in nothing else give the same page. An
object may be iterated by way of a private member, though, and that does show: a section of the
object is walked once for each item, and once for the object itself if it cannot be iterated. So
what objects give when they are iterated has to be alike.
-/

namespace Mustache

open Value (Alike Leeway)

/-- Frames that are alike in pairs cannot be told apart. -/
theorem Walk.twins_framesAlike {l : Leeway} (hidentities : l ≠ .identities)
    (hiteration : l ≠ .iteration) :
    Twins (fun _ => True) (Scope.FramesAlike l) (Alike l) fun _ => True where
  look {_ _ name m} h _ _ := by
    obtain ⟨hanswers, hmemory⟩ := h.look hidentities name m
    exact ⟨hanswers, hmemory, trivial⟩
  items {_ _ m} h _ := by
    obtain ⟨hanswers, hmemory⟩ := h.readItems hiteration m
    exact ⟨hanswers, hmemory, trivial⟩
  absent h := h.isAbsent_eq
  shown h := h.shown_eq
  push h hvw := h.push hvw

namespace UserList

def page : Template :=
  ⟨"page", [.block false "users" [.variable "name" true, .variable "_token" true,
    .block true "_token" [.text " has no token"], .variable "." true]]⟩

/-- One user, with a name and other members. -/
def data (members : List (String × Member)) : Value :=
  .map [(.text "users", .list
    [.object (("name", .value (.text "Ada")) :: members) (.ok none) "<user>" none])]

/-- A token, and a property that cannot be read. -/
def token : List (String × Member) :=
  [("_token", .value (.text "t0k3n")), ("_cache", .failingProperty ⟨.runtime, "closed"⟩)]

theorem data_alike : Alike .nothing (data token) (data []) :=
  have hpublic : Value.publicMembers (("name", .value (.text "Ada")) :: token) =
      Value.publicMembers [("name", .value (.text "Ada"))] := rfl
  .map (.cons (.mk (.same _)
    (.list (.cons (Value.alike_of_publicMembers hpublic (.ok none) "<user>" none) .nil))) .nil)

end UserList

end Mustache
