import ChatTranscript.Html.Fragment
import ChatTranscript.Proofs.Html.Attribute

/-!
# Values in fragments

The markup of a chat item, or of the container, tells the values that it was made from. An escaped
value holds neither angles nor quotes, so it ends at the mark that follows it. Content stands as it
is, but the stretches on both sides of it are always the same. So no value passes for the markup
around it, and other values give other markup. Only the spelling of line ends is lost, and whether
an avatar is absent or empty.

## Main definitions

* `Html.readEscaped`: an escaped value and what follows it.
* `Html.readItem`, `Html.readContainer`: the values of a fragment, read from front to end.
* `Html.shownAvatar`, `Html.ChatItem.shown`: what the markup tells of the values of an item.

## Main statements

* `Html.readItem_chatItem`, `Html.readContainer_container`: the values are read again.
* `Html.fragment_eq_iff`: fragments are the same exactly if their values are.
-/

namespace ChatTranscript

namespace Html

variable {value rest : Text} {mark : Char}

/-! ## escaped values -/

@[simp] theorem unescape_escape (value : Text) :
    unescape (escape value) = Text.unifyLineEnds value :=
  unescape_escapeAttribute (Text.unifyLineEnds value)

/-- What stands before a mark, without its escapes, and the text from the mark on. -/
def readEscaped (mark : Char) (text : Text) : Text × Text :=
  let (raw, rest) := Text.spanWhile (· != mark) text
  (unescape raw, rest)

theorem spanWhile_bare (bare : mark ∉ value) (ends : rest.head? = some mark) :
    Text.spanWhile (· != mark) (value ++ rest) = (value, rest) := by
  obtain ⟨after, rfl⟩ := List.head?_eq_some_iff.1 ends
  exact Text.spanWhile_mark_iff.2 ⟨rfl, bare, rfl⟩

/-- A value is read up to the angle or the quote that follows it. -/
theorem readEscaped_escape (special : mark ∈ ['<', '>', '"', '\'']) (value : Text)
    (ends : rest.head? = some mark) :
    readEscaped mark (escape value ++ rest) = (Text.unifyLineEnds value, rest) := by
  have bare : mark ∉ escape value := special_not_mem_escapeAttribute special _
  rw [readEscaped, spanWhile_bare bare ends]
  simp only [unescape_escape]

/-! ## avatars -/

namespace Fixed

def beforeUrl : Text := "<img class=\"chatAvatar no-lightbox\" src=\"".toList

def afterUrl : Text := "\" onerror=\"this.src='".toList ++ placeholderAvatar ++ "';\">".toList

end Fixed

/-- What the markup tells of an avatar; an empty URL shows none. -/
def shownAvatar : Option Text → Option Text
  | none | some [] => none
  | some url => some (Text.unifyLineEnds url)

/-- The avatar at the front of a text, if one stands there, and what follows it. -/
def readAvatar (text : Text) : Option (Option Text × Text) :=
  match Fixed.beforeUrl.isPrefixOf? text with
  | none => some (none, text)
  | some rest =>
    let (url, rest) := readEscaped '"' rest
    (Fixed.afterUrl.isPrefixOf? rest).map fun rest => (some url, rest)

theorem avatar_eq (url : Option Text) : avatar url =
    match shownAvatar url with
    | none => []
    | some shown => Fixed.beforeUrl ++ (escapeAttribute shown ++ Fixed.afterUrl) := by
  match url with
  | none => rfl
  | some [] => rfl
  | some (c :: url) =>
    unfold avatar Fixed.beforeUrl Fixed.afterUrl shownAvatar escape
    simp only [List.append_assoc]

theorem readAvatar_avatar (url : Option Text) (other : Fixed.beforeUrl.isPrefixOf? rest = none) :
    readAvatar (avatar url ++ rest) = some (shownAvatar url, rest) := by
  rw [avatar_eq]
  match url with
  | none | some [] => simp only [shownAvatar, readAvatar, List.nil_append, other]
  | some (c :: url) =>
    have ends : (Fixed.afterUrl ++ rest).head? = some '"' := rfl
    have read := readEscaped_escape (by decide) (c :: url) ends
    rw [escape] at read
    simp only [shownAvatar, readAvatar, List.append_assoc, Text.isPrefixOf?_append, read,
      Option.map_some]

/-! ## chat items -/

namespace Fixed

def beforeClass : Text := "\n<div class=\"".toList

def beforeAvatar : Text := "\">\n  ".toList

def beforeName : Text :=
  "\n  <div class=\"chatContentWrapper\">\n    <b class=\"chatName\">".toList

def afterName : Text := "</b>\n    <div class=\"".toList

def beforeContent : Text := "\">".toList

def afterContent : Text := "</div>\n  </div>\n</div>".toList

end Fixed

def itemClass (isOwn : Bool) : Text := (if isOwn then "chatItem me" else "chatItem").toList

def contentClass (isCard : Bool) : Text :=
  (if isCard then "chatCardContent" else "chatContent").toList

/-- What the markup of an item tells of its values. -/
def ChatItem.shown (item : ChatItem) : ChatItem :=
  { item with name := Text.unifyLineEnds item.name, avatarUrl := shownAvatar item.avatarUrl }

def readItem (markup : Text) : Option ChatItem := do
  let rest ← Fixed.beforeClass.isPrefixOf? markup
  let (ownClass, rest) := Text.spanWhile (· != '"') rest
  let rest ← Fixed.beforeAvatar.isPrefixOf? rest
  let (avatarUrl, rest) ← readAvatar rest
  let rest ← Fixed.beforeName.isPrefixOf? rest
  let (name, rest) := readEscaped '<' rest
  let rest ← Fixed.afterName.isPrefixOf? rest
  let (cardClass, rest) := Text.spanWhile (· != '"') rest
  let rest ← Fixed.beforeContent.isPrefixOf? rest
  let content ← Fixed.afterContent.isSuffixOf? rest
  return ⟨name, content, avatarUrl, ownClass == itemClass true, cardClass == contentClass true⟩

theorem chatItem_eq_append (item : ChatItem) : chatItem item =
    Fixed.beforeClass ++ (itemClass item.isOwn ++ (Fixed.beforeAvatar ++ (avatar item.avatarUrl ++
      (Fixed.beforeName ++ (escape item.name ++ (Fixed.afterName ++ (contentClass item.isCard ++
        (Fixed.beforeContent ++ (item.content ++ Fixed.afterContent))))))))) := by
  unfold chatItem Fixed.beforeClass itemClass Fixed.beforeAvatar Fixed.beforeName Fixed.afterName
    contentClass Fixed.beforeContent Fixed.afterContent
  simp only [List.append_assoc]

/-- An item is read again from its markup. -/
theorem readItem_chatItem (item : ChatItem) : readItem (chatItem item) = some item.shown := by
  obtain ⟨name, content, url, isOwn, isCard⟩ := item
  have ownClass (rest : Text) : Text.spanWhile (· != '"')
      (itemClass isOwn ++ (Fixed.beforeAvatar ++ rest)) =
        (itemClass isOwn, Fixed.beforeAvatar ++ rest) :=
    spanWhile_bare (by cases isOwn <;> decide) rfl
  have cardClass (rest : Text) : Text.spanWhile (· != '"')
      (contentClass isCard ++ (Fixed.beforeContent ++ rest)) =
        (contentClass isCard, Fixed.beforeContent ++ rest) :=
    spanWhile_bare (by cases isCard <;> decide) rfl
  have avatarRead (rest : Text) :
      readAvatar (avatar url ++ (Fixed.beforeName ++ rest)) =
        some (shownAvatar url, Fixed.beforeName ++ rest) :=
    readAvatar_avatar url rfl
  have nameRead (rest : Text) : readEscaped '<' (escape name ++ (Fixed.afterName ++ rest)) =
      (Text.unifyLineEnds name, Fixed.afterName ++ rest) :=
    readEscaped_escape (by decide) name rfl
  have contentRead : Fixed.afterContent.isSuffixOf? (content ++ Fixed.afterContent) =
      some content := List.isSuffixOf?_eq_some_iff_append_eq.2 rfl
  have own : (itemClass isOwn == itemClass true) = isOwn := by cases isOwn <;> rfl
  have card : (contentClass isCard == contentClass true) = isCard := by cases isCard <;> rfl
  rw [chatItem_eq_append, readItem]
  simp only [Text.isPrefixOf?_append, Option.bind_eq_bind, Option.bind_some, ownClass, avatarRead,
    nameRead, cardClass, contentRead, own, card]
  rfl

/-- The markup of an item depends on nothing else. -/
theorem chatItem_congr {item other : ChatItem} (same : item.shown = other.shown) :
    chatItem item = chatItem other := by
  simp only [ChatItem.shown, ChatItem.mk.injEq] at same
  obtain ⟨name, content, url, isOwn, isCard⟩ := same
  rw [chatItem_eq_append, chatItem_eq_append, avatar_eq, avatar_eq, escape, escape, name, content,
    url, isOwn, isCard]

/-! ## containers -/

namespace Fixed

def beforeTitle : Text :=
  "<div class=\"chatContainer\"><div class=\"chatBoxTitle\">".toList ++
    "<i class=\"fa fa-chevron-left\"></i><span class=\"chatTitleText\">".toList

def afterTitle : Text :=
  "</span><div class=\"chatBoxIcons\"><i class=\"fa fa-group\"></i>".toList ++
    "<i class=\"fa fa-dedent\"></i></div></div><div class=\"chatBox\">".toList

def afterItems : Text := "</div></div>".toList

end Fixed

/-- The items and the title of a container. -/
def readContainer (markup : Text) : Option (Text × Text) := do
  let rest ← Fixed.beforeTitle.isPrefixOf? markup
  let (title, rest) := readEscaped '<' rest
  let rest ← Fixed.afterTitle.isPrefixOf? rest
  let items ← Fixed.afterItems.isSuffixOf? rest
  return (items, title)

theorem container_eq_append (items title : Text) : container items title =
    Fixed.beforeTitle ++ (escape title ++ (Fixed.afterTitle ++ (items ++ Fixed.afterItems))) := by
  unfold container Fixed.beforeTitle Fixed.afterTitle Fixed.afterItems
  simp only [List.append_assoc]

theorem readContainer_container (items title : Text) :
    readContainer (container items title) = some (items, Text.unifyLineEnds title) := by
  have titleRead (rest : Text) : readEscaped '<' (escape title ++ (Fixed.afterTitle ++ rest)) =
      (Text.unifyLineEnds title, Fixed.afterTitle ++ rest) :=
    readEscaped_escape (by decide) title rfl
  have itemsRead : Fixed.afterItems.isSuffixOf? (items ++ Fixed.afterItems) = some items :=
    List.isSuffixOf?_eq_some_iff_append_eq.2 rfl
  rw [container_eq_append, readContainer]
  simp only [Text.isPrefixOf?_append, Option.bind_eq_bind, Option.bind_some, titleRead, itemsRead]
  rfl

/-! ## no value passes for markup -/

/-- Two chat items have the same markup exactly if their flags and contents are the same and their
names and avatars differ in line ends at most, an empty avatar being none. Two containers have the
same markup exactly if their items are the same and their titles differ in line ends at most. A name
or a title is read up to the next angle, and an avatar up to the next quote, with its escapes
undone. -/
theorem fragment_eq_iff :
    (∀ item other : ChatItem, chatItem item = chatItem other ↔
      item.isOwn = other.isOwn ∧ item.isCard = other.isCard ∧ item.content = other.content ∧
        Text.unifyLineEnds item.name = Text.unifyLineEnds other.name ∧
        shownAvatar item.avatarUrl = shownAvatar other.avatarUrl) ∧
    (∀ items more title caption : Text, container items title = container more caption ↔
      items = more ∧ Text.unifyLineEnds title = Text.unifyLineEnds caption) ∧
    (∀ item : ChatItem, readItem (chatItem item) = some item.shown) ∧
    ∀ items title : Text,
      readContainer (container items title) = some (items, Text.unifyLineEnds title) := by
  refine ⟨fun item other => ⟨fun same => ?_, ?_⟩,
    fun items more title caption => ⟨fun same => ?_, ?_⟩, readItem_chatItem,
    readContainer_container⟩
  · have read := congrArg readItem same
    rw [readItem_chatItem, readItem_chatItem, Option.some.injEq, ChatItem.shown, ChatItem.shown,
      ChatItem.mk.injEq] at read
    obtain ⟨name, content, url, isOwn, isCard⟩ := read
    exact ⟨isOwn, isCard, content, name, url⟩
  · rintro ⟨isOwn, isCard, content, name, url⟩
    refine chatItem_congr ?_
    rw [ChatItem.shown, ChatItem.shown, ChatItem.mk.injEq]
    exact ⟨name, content, url, isOwn, isCard⟩
  · have read := congrArg readContainer same
    rw [readContainer_container, readContainer_container, Option.some.injEq, Prod.mk.injEq] at read
    exact read
  · rintro ⟨rfl, title⟩
    rw [container_eq_append, container_eq_append, escape, escape, title]

end Html

end ChatTranscript
