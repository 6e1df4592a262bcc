import ChatTranscript.Proofs.Style.Block
import ChatTranscript.Proofs.Template.StyleHistory

/-!
# The style block of a template store

Style tags come into the scope of a store from templates that arrive and from texts that are
registered. Whatever they look like, and in whatever order they come, the style block of the page
holds each of them as a whole, and no other tag.

## Main statements

* `Template.Gathering.tags_render_of_uses`: the tags of the scope are found again in its block.
-/

namespace ChatTranscript

namespace Template

open Style (IsTag)

theorem isTag_of_mem_stylesOf {templates : List (Text × Text)} {tag : Text}
    (member : tag ∈ stylesOf templates) : IsTag tag := by
  obtain ⟨template, -, member⟩ := List.mem_flatMap.1 member
  exact Style.isTag_of_mem_tags member

namespace Store

variable {store next : Store} {arrived : List (Text × Text)} {tags : List Text}

theorem Gains.isTag (h : store.Gains arrived tags next)
    (held : ∀ tag ∈ store.styles.tags, IsTag tag) (brought : ∀ tag ∈ tags, IsTag tag) :
    ∀ tag ∈ next.styles.tags, IsTag tag := by
  intro tag member
  rw [h.styles, List.mem_eraseDups, List.mem_append] at member
  exact member.elim (held tag) (brought tag)

end Store

namespace Gathering

variable {g : Gathering} {uses : List Use}

theorem isTag_of_mem_collect (registers : ∀ tag, Use.add tag ∉ uses) :
    ∀ tag ∈ g.collect brings uses, IsTag tag := by
  induction uses generalizing g with
  | nil => simp [collect]
  | cons use uses ih =>
    simp only [List.mem_cons, not_or] at registers
    intro tag member
    rw [collect, List.mem_append] at member
    obtain own | later := member
    · cases use with
      | request event => exact isTag_of_mem_stylesOf own
      | register text => exact Style.isTag_of_mem_tags own
      | add other => exact absurd rfl (registers other).1
    · exact ih (fun other => (registers other).2) tag later

/-- The scope of a fresh store gets its style tags from templates that arrive and from texts that
are registered, and from nothing else. Then the tags that are found in its style block are the tags
that it holds, in order: the first occurrences of all that the uses brought. This goes for single
gets too, whatever they fetch. -/
theorem tags_render_of_uses (fallback : Text) (paths : List Text) (uses : List Use)
    (registers : ∀ tag, Use.add tag ∉ uses) :
    let start := ofPaths (.empty fallback) paths
    let store := (start.used uses).store
    Style.tags store.styles.render = store.styles.tags ∧
    store.styles.tags = (start.collect brings uses).eraseDups ∧
    ∀ (σ : Type) (fetch : Fetcher σ) (path : Text) (source : σ),
      let next := (store.get fetch path source).2.1
      Style.tags next.styles.render = next.styles.tags := by
  intro start store
  have gains := ((sound_ofPaths (.empty fallback) paths).used uses).2
  have none : ∀ tag ∈ start.store.styles.tags, IsTag tag := by
    simp [start, ofPaths, Store.empty, Style.Scope.empty]
  have whole : ∀ tag ∈ store.styles.tags, IsTag tag :=
    gains.isTag none (isTag_of_mem_collect registers)
  refine ⟨Style.Scope.tags_render_iff.2 whole, gains.styles, fun σ fetch path source => ?_⟩
  obtain ⟨arrived, more⟩ := Store.get_gathers fetch path store source
  exact Style.Scope.tags_render_iff.2 (more.isTag whole fun tag => isTag_of_mem_stylesOf)

/-- A template with a style element that looks nested and an ill-formed link, and a text with a link
within a style element. -/
def nestedUses : List Use :=
  [.request (.resume 0),
    .request (.answer 0
      (.text "<style><style></style x</STYLE >p<link a rel = 'stylesheet\"<b>".toList)),
    .register "<style>\n<link rel=stylesheet></style></style>".toList]

/-- The tags in the style block are those of the two texts. -/
theorem tags_render_of_uses_nested :
    Style.tags ((ofPaths (.empty []) ["p".toList]).used nestedUses).store.styles.render =
      ["<style><style></style x</STYLE >".toList, "<link a rel = 'stylesheet\"<b>".toList,
        "<style>\n<link rel=stylesheet></style>".toList] := by
  have registers : ∀ tag, Use.add tag ∉ nestedUses := by simp [nestedUses]
  obtain ⟨found, -⟩ := tags_render_of_uses [] ["p".toList] nestedUses registers
  exact found.trans (by decide)

end Gathering

end Template

end ChatTranscript
