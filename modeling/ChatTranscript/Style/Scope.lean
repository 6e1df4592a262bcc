import ChatTranscript.Style.Tag

/-!
# The style scope of a page

The style tags that templates bring along, each once, in the order in which they came. Who adds tags
is told which of them are new.

## Main definitions

* `Style.Scope.add`, `Style.Scope.register`: one tag, and all tags of a template.
* `Style.Scope.render`: the tags as they stand in the page head.
-/

namespace ChatTranscript

namespace Style

structure Scope where
  tags : List Text
  nodup : tags.Nodup

namespace Scope

def empty : Scope := ⟨[], List.nodup_nil⟩

def contains (scope : Scope) (tag : Text) : Bool := scope.tags.contains tag

/-- Adds a tag, and says whether it is new. -/
def add (scope : Scope) (tag : Text) : Bool × Scope :=
  if h : tag ∈ scope.tags then (false, scope)
  else (true, ⟨scope.tags ++ [tag], by
    rw [List.nodup_append]
    refine ⟨scope.nodup, by simp, ?_⟩
    intro a ha b hb
    rw [List.mem_singleton] at hb
    exact fun e => h (hb ▸ e ▸ ha)⟩)

/-- Adds tags in their order, and counts those that are new. -/
def addAll (scope : Scope) : List Text → Nat × Scope
  | [] => (0, scope)
  | tag :: tags =>
    let (new, scope) := scope.add tag
    let (count, scope) := scope.addAll tags
    (new.toNat + count, scope)

/-- Adds the style tags of a template, and counts those that are new. -/
def register (scope : Scope) (template : Text) : Nat × Scope :=
  scope.addAll (Style.tags template)

def render (scope : Scope) : Text := List.intercalate ['\n'] scope.tags

/-! ## adding -/

variable {scope : Scope} {tag : Text}

@[simp, grind =] theorem tags_add : (scope.add tag).2.tags =
    scope.tags ++ if (scope.add tag).1 then [tag] else [] := by
  by_cases h : tag ∈ scope.tags <;> simp [add, h]

@[simp, grind =] theorem addAll_cons (scope : Scope) (tag : Text) (tags : List Text) :
    scope.addAll (tag :: tags) = ((scope.add tag).1.toNat + ((scope.add tag).2.addAll tags).1,
      ((scope.add tag).2.addAll tags).2) := rfl

end Scope

end Style

end ChatTranscript
