/-
# Generation

From the text of a page to its sections and to the declarations made of them.
-/
import TypedReference.Assembly
import TypedReference.Failure
import TypedReference.Page

namespace TypedReference

/-- The sections of the page with a text. -/
def sectionsOfText (cfg : Conventions) (text : String) : Logged Failure (List Section) :=
  match Markup.treeOfPage text with
  | .error fault => .fail (.markup fault)
  | .ok tree => ⟨.ok (Page.sections cfg tree), Page.events cfg tree⟩

/-- What the page with a text is made into. -/
def Assembly.ofText (cfg : Conventions) (text : String) : Logged Failure Assembly :=
  (sectionsOfText cfg text).andThen fun found =>
  (Logged.report (.sectionsFound found.length)).andThen fun _ =>
  (Assembly.ofSections cfg found).widen .assembly

namespace Assembly

/-- How many members all declarations have. -/
def memberCount (a : Assembly) : Nat := (a.declarations.flatMap fun d => d.members).length

/-- How many overloads all members have. -/
def overloadCount (a : Assembly) : Nat :=
  (a.declarations.flatMap fun d => d.members.flatMap fun m => m.overloads).length

/-- The event that sums up an assembly. -/
def summary (a : Assembly) : Event :=
  .summary a.declarations.length a.memberCount a.overloadCount a.attached a.dropped.length

end Assembly

end TypedReference
