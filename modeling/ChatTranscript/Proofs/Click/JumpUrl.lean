import ChatTranscript.Click.Registry

/-!
# Where a click leads without a parameter

A click on a card that brings no URL along leads to a jump URL in the meta sections of the card. Of
the texts that stand there as jump URLs the first one counts, the one of meta itself before those of
its sections. If it is empty the click leads nowhere, also where a later one is not.

## Main definitions

* `Click.jumpTexts`: the texts that stand in meta as jump URLs, in order.
* `Click.Action.leadTo`: the effect of an action that has a URL.
* `Click.target?`: the URL of a click on a card.

## Main statements

* `Click.Registry.dispatch_jumpUrl`: the answer to a click without a URL of its own.
-/

namespace ChatTranscript

/-! ## jump URLs -/

def Json.text? : Json → Option Text
  | .str text => some text
  | _ => none

namespace Click

/-- The texts that stand as jump URLs in meta itself and then in its sections, in order. -/
def jumpTexts (sections : Fields) : List Text :=
  ((Json.obj sections :: sections.map Prod.snd).filterMap
    (Json.get? "jumpUrl".toList)).filterMap Json.text?

/-- What an action does that has got a URL. -/
def Action.leadTo : Action → Text → Option Effect
  | .openUrl, url => some ⟨"open_url".toList, url, []⟩
  | .openChatWindow, url => some ⟨"open_window".toList, url, windowFeatures⟩
  | .noop, _ => none

variable {action : Action} {payload params sections : Fields} {url : Text}

theorem sectionUrl?_eq :
    Json.sectionUrl? = fun part => (part.get? "jumpUrl".toList).bind Json.text? := by
  funext part
  rw [Json.sectionUrl?]
  cases part.get? "jumpUrl".toList with
  | none => rfl
  | some value => cases value <;> rfl

/-- The search comes to the first of the texts. -/
theorem metaUrl?_eq (sections : Fields) :
    metaUrl? (.obj sections) = (jumpTexts sections).head? := by
  rw [jumpTexts, List.filterMap_filterMap, List.head?_filterMap, ← sectionUrl?_eq,
    List.findSome?_cons, List.findSome?_map, metaUrl?]
  cases (Json.obj sections).sectionUrl? <;> rfl

/-! ## clicks -/

/-- The parameters name no URL that counts. -/
def NamesNoUrl (params : Fields) : Prop :=
  ∀ value, Fields.get? "url".toList params = some value → value.isTruthy = false

/-- The URL of a click on a card: the one that it brings along, else the jump URL of the card unless
that is empty. -/
def target? (card params : Fields) : Option Text :=
  match Json.truthy? (Fields.get? "url".toList params) with
  | some url => some url.asText
  | none => ((Fields.get? "meta".toList card).bind metaUrl?).filter fun url => !url.isEmpty

@[simp] theorem clickUrl?_obj (card params : Fields) :
    clickUrl? (.obj card) (.obj params) = .ok (target? card params) := by
  unfold clickUrl? target? jumpUrl?
  simp only [Json.entry, bind, Except.bind]
  cases Json.truthy? (Fields.get? "url".toList params) <;> rfl

/-- The choice is left to the payload. -/
theorem clickUrl?_eq (plain : NamesNoUrl params)
    (own : Fields.get? "meta".toList payload = some (.obj sections)) :
    clickUrl? (.obj payload) (.obj params) =
      .ok ((jumpTexts sections).head?.filter fun url => !url.isEmpty) := by
  have absent : Json.truthy? (Fields.get? "url".toList params) = none := by
    rw [Json.truthy?, Option.filter_eq_none_iff]
    intro value found
    simpa using plain value found
  rw [clickUrl?_obj, target?, absent, own, ← metaUrl?_eq]
  rfl

/-- Whatever an action does with a URL, it does with the one that was chosen. -/
theorem run_eq_leadTo {chosen : Option Text} {payload params : Json}
    (leads : clickUrl? payload params = .ok chosen) :
    action.run payload params = .ok (chosen.bind action.leadTo) := by
  cases action with
  | noop => cases chosen <;> rfl
  | openUrl | openChatWindow =>
    rw [Action.run, leads]
    cases chosen <;> rfl

theorem leadTo_ne_none (opens : action ≠ .noop) (url : Text) : action.leadTo url ≠ none := by
  cases action with
  | noop => exact absurd rfl opens
  | openUrl | openChatWindow => simp [Action.leadTo]

namespace Registry

variable {registry : Registry} {id : HandlerId}

/-- A click on a card that brings no URL along does what the action of its handler does with the
first text that stands in meta as a jump URL, and nothing if that is empty or there is none. So it
leads to the first text that is not empty exactly if no empty one stands in front. -/
theorem dispatch_jumpUrl (registered : registry.get? id = some ⟨action, .obj payload⟩)
    (opens : action ≠ .noop) (own : Fields.get? "meta".toList payload = some (.obj sections))
    (plain : NamesNoUrl params) :
    registry.dispatch id (.obj params) =
      .ok (((jumpTexts sections).head?.filter fun url => !url.isEmpty).bind action.leadTo) ∧
    ∀ url, (jumpTexts sections).find? (fun url => !url.isEmpty) = some url →
      (registry.dispatch id (.obj params) = .ok (action.leadTo url) ↔
        (jumpTexts sections).head? ≠ some []) := by
  have given : ∃ fields, NamesNoUrl fields ∧
      (if (Json.obj params).isTruthy then Json.obj params else .obj []) = .obj fields := by
    split
    · exact ⟨params, plain, rfl⟩
    · exact ⟨[], by simp [NamesNoUrl, Fields.get?], rfl⟩
  obtain ⟨fields, unnamed, eq⟩ := given
  have answer : registry.dispatch id (.obj params) =
      .ok (((jumpTexts sections).head?.filter fun url => !url.isEmpty).bind action.leadTo) := by
    rw [dispatch, registered, eq]
    exact run_eq_leadTo (clickUrl?_eq unnamed own)
  refine ⟨answer, fun url usable => ?_⟩
  rw [answer]
  cases texts : jumpTexts sections with
  | nil =>
    rw [texts] at usable
    cases usable
  | cons first later =>
    rw [texts, List.find?_cons] at usable
    cases first with
    | nil =>
      refine iff_of_false (fun same => ?_) (by simp)
      exact leadTo_ne_none opens url (Except.ok.inj same).symm
    | cons c first =>
      cases usable
      exact iff_of_true rfl (by simp)

/-- Neither a number in meta nor a section with a null hides the URL of a later section. -/
def newsPayload : Fields :=
  [("meta".toList, .obj [("jumpUrl".toList, .int 5), ("a".toList, .obj [("jumpUrl".toList, .null)]),
    ("news".toList, .obj [("jumpUrl".toList, .str "https://n".toList)])])]

/-- The card is registered for a chat window, and the click brings an empty URL along. -/
theorem dispatch_jumpUrl_news :
    (register (.counting 0 0) "open_chat_window".toList (.obj newsPayload)
      (some (.text "h".toList)) .empty).2.dispatch (.text "h".toList)
        (.obj [("url".toList, .str [])]) =
      .ok (some ⟨"open_window".toList, "https://n".toList, windowFeatures⟩) := by
  have plain : NamesNoUrl [("url".toList, .str [])] := by
    rintro value ⟨⟩
    rfl
  have registered : (register (.counting 0 0) "open_chat_window".toList (.obj newsPayload)
      (some (.text "h".toList)) .empty).2.get? (.text "h".toList) =
        some ⟨.openChatWindow, .obj newsPayload⟩ := rfl
  exact (dispatch_jumpUrl registered (by simp) rfl plain).1.trans rfl

/-- An empty URL of meta hides the one of a section. -/
theorem dispatch_jumpUrl_hidden :
    ¬ ∀ (registry : Registry) (id : HandlerId) (action : Action)
        (payload params sections : Fields) (url : Text),
      registry.get? id = some ⟨action, .obj payload⟩ → action ≠ .noop →
      Fields.get? "meta".toList payload = some (.obj sections) → NamesNoUrl params →
      (jumpTexts sections).find? (fun url => !url.isEmpty) = some url →
      registry.dispatch id (.obj params) = .ok (action.leadTo url) := by
  intro leads
  have hidden := leads
    ⟨[(.text "h".toList, ⟨.openUrl, .obj [("meta".toList, .obj [("jumpUrl".toList, .str []),
      ("news".toList, .obj [("jumpUrl".toList, .str "https://n".toList)])])]⟩)], 0⟩
    (.text "h".toList) .openUrl _ [] _ "https://n".toList rfl (by simp) rfl
    (by simp [NamesNoUrl, Fields.get?]) rfl
  cases hidden

end Registry

end Click

end ChatTranscript
