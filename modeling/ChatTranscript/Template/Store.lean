import ChatTranscript.Template.Fallback
import ChatTranscript.Style.Scope
import ChatTranscript.Fetch.Basic

/-!
# The template store

Templates are fetched once. A fetched template is kept, and its style tags join the style scope of
the page. A template that cannot be fetched is replaced by the fallback, and fetched again when it
is needed again.

## Main definitions

* `Template.Store`: the kept templates and the style scope.
* `Template.Store.settle`: what the outcome of a fetch means for the store.
* `Template.Store.get`: a template, fetched if it is not kept.
-/

namespace ChatTranscript

namespace Template

structure Store where
  fallback : Text
  kept : List (Text × Text)
  styles : Style.Scope

namespace Store

def empty (fallback : Text) : Store := ⟨fallback, [], .empty⟩

def get? (store : Store) (path : Text) : Option Text :=
  (store.kept.find? (·.1 == path)).map (·.2)

/-- Keeps a template that was not there. -/
def keep (store : Store) (path template : Text) : Store :=
  { store with
    kept := store.kept ++ [(path, template)]
    styles := (store.styles.register template).2 }

/-- The answer that the outcome of a fetch gives, and the store afterwards. -/
def settle (store : Store) (path : Text) :
    FetchOutcome → Except Fault Text × Store
  | .text template => (.ok template, store.keep path template)
  | .failed _ => (.ok store.fallback, store)
  | .raised fault => (.error fault, store)

def get {σ : Type} (fetch : Fetcher σ) (path : Text) (store : Store) (source : σ) :
    Except Fault Text × Store × σ :=
  match store.get? path with
  | some template => (.ok template, store, source)
  | none =>
    let (outcome, source) := fetch path source
    let (answer, store) := store.settle path outcome
    (answer, store, source)

end Store

end Template

end ChatTranscript
