import ChatTranscript.Avatar.Choice
import ChatTranscript.Template.Store
import ChatTranscript.Click.Registry

/-!
# Sessions

What renders share and leave behind for later renders, and how a single renderer is set up.

## Main definitions

* `Session`: avatars, templates, click handlers, and the state of the fetcher.
* `Renderer`: where a renderer gets its texts and ids.
-/

namespace ChatTranscript

/-- The state that outlives a render; `source` is the state of the fetcher. -/
structure Session (σ : Type) where
  roster : Avatar.Roster
  store : Template.Store
  handlers : Click.Registry
  source : σ

/-- Where a renderer gets its texts and ids, and the roots of templates and viewer links. -/
structure Renderer (σ : Type) where
  fetch : Fetcher σ
  ids : Click.IdSource
  templates : Text
  viewer : Text

/-- A session that nothing was rendered in. -/
def Session.fresh {σ : Type} (pool : List Text) (fallback : Text) (source : σ) : Session σ :=
  ⟨.ofPool pool, .empty fallback, .empty, source⟩

/-- A template by its path. -/
def Session.template {σ : Type} (fetch : Fetcher σ) (path : Text) (session : Session σ) :
    Except Fault Text × Session σ :=
  let (answer, store, source) := session.store.get fetch path session.source
  (answer, { session with store, source })

end ChatTranscript
