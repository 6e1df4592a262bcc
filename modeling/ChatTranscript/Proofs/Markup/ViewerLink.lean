import ChatTranscript.Markup.Render
import ChatTranscript.Proofs.Html.Attribute
import ChatTranscript.Proofs.Text.PercentEncoding
import Mathlib.Data.List.TakeWhile

/-!
# Links to forwarded transcripts

A link is the viewer with a query of two components, and both are found again in it. The fragment of
a forwarded transcript holds the link twice, as an attribute and as a string of a script inside
another attribute. A quote never gets into a component, but an apostrophe does: it is unreserved,
and it also ends the string.

## Main definitions

* `Markup.queryFields`: the fields of a query and their parts.
* `Markup.chatAttributes`: the attributes in the fragment of a forwarded transcript.
* `Markup.scriptArgument?`: the string that the script of a fragment passes on.

## Main statements

* `Markup.viewerLink_query`: what a link is made of, and what is found in it.
* `Markup.chat_script_argument`: where the two ways to a forwarded transcript agree.
* `Markup.chat_script_cut_short`: where they do not.
-/

namespace ChatTranscript

namespace Markup

open PercentEncoding (IsComponent encodeComponent)
open Html (Attribute attribute?)

variable {mark : Char} {name value viewer title path : Text}

/-! ## the query of a link -/

/-- The fields of a query and their parts. -/
def queryFields (query : Text) : List (List Text) := (query.splitOn '&').map (·.splitOn '=')

theorem splitOn_field (bareName : '=' ∉ name) (bareValue : '=' ∉ value) :
    (name ++ '=' :: value).splitOn '=' = [name, value] := by
  rw [List.splitOn_append_cons_self_of_not_mem bareName, List.splitOn_eq_singleton bareValue]

theorem queryFields_pair {first second : Text} (bareFirst : '&' ∉ first)
    (bareSecond : '&' ∉ second) :
    queryFields (first ++ '&' :: second) = [first.splitOn '=', second.splitOn '='] := by
  rw [queryFields, List.splitOn_append_cons_self_of_not_mem bareFirst,
    List.splitOn_eq_singleton bareSecond]
  rfl

def linkQuery (title path : Text) : Text :=
  "jsonFilePath".toList ++ '=' :: encodeComponent path ++
    '&' :: ("title".toList ++ '=' :: encodeComponent title)

theorem viewerLink_eq (viewer title path : Text) :
    viewerLink viewer title path = viewer ++ '?' :: linkQuery title path := by
  have opening : "?jsonFilePath=".toList = '?' :: ("jsonFilePath".toList ++ ['=']) := by decide
  have between : "&title=".toList = '&' :: ("title".toList ++ ['=']) := by decide
  unfold viewerLink linkQuery
  rw [opening, between]
  simp only [List.append_assoc, List.cons_append, List.nil_append]

theorem queryFields_linkQuery (title path : Text) :
    queryFields (linkQuery title path) =
      [["jsonFilePath".toList, encodeComponent path], ["title".toList, encodeComponent title]] := by
  have separators (text : Text) : '&' ∉ encodeComponent text ∧ '=' ∉ encodeComponent text :=
    have component := PercentEncoding.isComponent_encodeComponent text
    ⟨component.not_mem (by decide) (by decide), component.not_mem (by decide) (by decide)⟩
  unfold linkQuery
  rw [queryFields_pair, splitOn_field (by decide) (separators path).2,
    splitOn_field (by decide) (separators title).2]
  · simp [separators path]
  · simp [separators title]

/-- The viewer and a query: its two values are made of unreserved characters and escapes, and behind
their escapes they are the path and the title. So the link tells any two forwarded transcripts
apart. -/
theorem viewerLink_query (viewer title path : Text) :
    (∃ query pathText titleText, viewerLink viewer title path = viewer ++ '?' :: query ∧
      queryFields query = [["jsonFilePath".toList, pathText], ["title".toList, titleText]] ∧
      IsComponent pathText ∧ IsComponent titleText ∧
      PercentEncoding.decode pathText = path ∧ PercentEncoding.decode titleText = title) ∧
    ∀ title' path', viewerLink viewer title path = viewerLink viewer title' path' ↔
      title = title' ∧ path = path' := by
  refine ⟨⟨linkQuery title path, encodeComponent path, encodeComponent title,
    viewerLink_eq viewer title path, queryFields_linkQuery title path,
    PercentEncoding.isComponent_encodeComponent path,
    PercentEncoding.isComponent_encodeComponent title,
    PercentEncoding.decode_encodeComponent path, PercentEncoding.decode_encodeComponent title⟩,
    fun title' path' => ⟨fun same => ?_, ?_⟩⟩
  · rw [viewerLink_eq, viewerLink_eq] at same
    have query : linkQuery title path = linkQuery title' path' := by simpa using same
    have fields := congrArg queryFields query
    rw [queryFields_linkQuery, queryFields_linkQuery] at fields
    have values : encodeComponent path = encodeComponent path' ∧
        encodeComponent title = encodeComponent title' := by simpa using fields
    exact ⟨PercentEncoding.encodeComponent_injective values.2,
      PercentEncoding.encodeComponent_injective values.1⟩
  · rintro ⟨rfl, rfl⟩
    rfl

/-- Marks of a query are escaped, an apostrophe is not. -/
example : viewerLink "https://v/".toList "it's".toList "a&b".toList =
    "https://v/?jsonFilePath=a%26b&title=it's".toList := by
  decide +kernel

/-! ## the fragment of a forwarded transcript -/

/-- A mark gets into a link with the viewer or one of the components. -/
theorem mem_viewerLink (out : mark ∉ viewer) (bareOpening : mark ∉ "?jsonFilePath=".toList)
    (bareBetween : mark ∉ "&title=".toList) :
    mark ∈ viewerLink viewer title path ↔
      mark ∈ encodeComponent title ∨ mark ∈ encodeComponent path := by
  unfold viewerLink
  rw [List.mem_append, List.mem_append, List.mem_append, List.mem_append]
  grind

theorem quote_not_mem_viewerLink (out : '"' ∉ viewer) : '"' ∉ viewerLink viewer title path := by
  have bare (text : Text) : '"' ∉ encodeComponent text :=
    (PercentEncoding.isComponent_encodeComponent text).not_mem (by decide) (by decide)
  rw [mem_viewerLink out (by decide) (by decide)]
  exact not_or_intro (bare title) (bare path)

theorem apostrophe_mem_viewerLink (out : '\'' ∉ viewer) :
    '\'' ∈ viewerLink viewer title path ↔ '\'' ∈ title ∨ '\'' ∈ path := by
  rw [mem_viewerLink out (by decide) (by decide),
    PercentEncoding.mem_encodeComponent (by decide) (by decide),
    PercentEncoding.mem_encodeComponent (by decide) (by decide)]

def chatFrame : List Attribute :=
  [⟨"<div class=".toList, "chatQuoteCard".toList⟩,
    ⟨">\n  <div class=".toList, "chatQuoteTitle".toList⟩,
    ⟨">\n    <i class=".toList, "fa fa-database".toList⟩,
    ⟨"></i>\n    <span>Forwarded chat transcript</span>\n  </div>\n  <a class=".toList,
      "chatMessage".toList⟩]

def openScript (link : Text) : Text :=
  "openChatWindow('".toList ++ link ++ '\'' :: "); return false;".toList

/-- The attributes of the fragment of a forwarded transcript. -/
def chatAttributes (link : Text) : List Attribute :=
  chatFrame ++ [⟨" href=".toList, link⟩, ⟨" target=".toList, "_blank".toList⟩,
    ⟨" onclick=".toList, openScript link⟩]

theorem renderChat_eq (viewer title path : Text) :
    renderChat viewer title path =
      (chatAttributes (viewerLink viewer title path)).flatMap (·.print) ++
        (">Forwarded from: ".toList ++ (title ++ "</a>\n</div>".toList)) := by
  have opening : "<div class=\"chatQuoteCard\">\n  <div class=\"chatQuoteTitle\">\n".toList ++
      "    <i class=\"fa fa-database\"></i>\n".toList ++
      "    <span>Forwarded chat transcript</span>\n  </div>\n".toList ++
      "  <a class=\"chatMessage\" href=\"".toList =
        chatFrame.flatMap (·.print) ++ (" href=".toList ++ ['"']) := by decide +kernel
  have between : "\" target=\"_blank\" onclick=\"openChatWindow('".toList =
      '"' :: (Attribute.print ⟨" target=".toList, "_blank".toList⟩ ++
        (" onclick=".toList ++ '"' :: "openChatWindow('".toList)) := by decide +kernel
  have behind : "'); return false;\">Forwarded from: ".toList =
      '\'' :: ("); return false;".toList ++ '"' :: ">Forwarded from: ".toList) := by decide +kernel
  unfold renderChat chatAttributes openScript
  rw [opening, between, behind]
  simp only [List.flatMap_append, List.flatMap_cons, List.flatMap_nil, Attribute.print,
    List.append_assoc, List.cons_append, List.nil_append]

theorem isBare_chatAttributes {link : Text} (bare : '"' ∉ link) :
    ∀ entry ∈ chatAttributes link, entry.IsBare := by
  have frame : ∀ entry ∈ chatFrame, entry.IsBare := by decide +kernel
  have fronts : '"' ∉ " href=".toList ∧ '"' ∉ " onclick=".toList := by decide
  have script : '"' ∉ openScript link := by
    unfold openScript
    rw [List.mem_append, List.mem_append]
    exact not_or_intro (not_or_intro (by decide) bare) (by decide)
  unfold chatAttributes
  simp only [List.forall_mem_append, List.forall_mem_cons]
  exact ⟨frame, ⟨fronts.1, bare⟩, by decide, ⟨fronts.2, script⟩, List.forall_mem_nil _⟩

theorem attribute?_renderChat (out : '"' ∉ viewer) :
    ∃ later, attribute? name (renderChat viewer title path) =
      ((chatAttributes (viewerLink viewer title path) ++ later).find? (·.isNamed name)).map
        (·.value) := by
  rw [attribute?, renderChat_eq,
    Html.readAttributes_print (isBare_chatAttributes (quote_not_mem_viewerLink out))]
  exact ⟨_, rfl⟩

/-- The string that the script of a fragment passes on: from behind the opening of the call up to
the next apostrophe. -/
def scriptArgument? (fragment : Text) : Option Text := do
  let script ← attribute? "onclick".toList fragment
  let (_, rest) ← Text.cut? "openChatWindow('".toList script
  let (argument, _) ← Text.cut? ['\''] rest
  return argument

theorem href_renderChat (out : '"' ∉ viewer) :
    attribute? "href".toList (renderChat viewer title path) =
      some (viewerLink viewer title path) := by
  have frame : chatFrame.find? (·.isNamed "href".toList) = none := by decide +kernel
  obtain ⟨later, read⟩ := attribute?_renderChat out
  rw [read, chatAttributes, List.append_assoc, List.find?_append, frame, Option.none_or]
  rfl

theorem onclick_renderChat (out : '"' ∉ viewer) :
    attribute? "onclick".toList (renderChat viewer title path) =
      some (openScript (viewerLink viewer title path)) := by
  have frame : chatFrame.find? (·.isNamed "onclick".toList) = none := by decide +kernel
  obtain ⟨later, read⟩ := attribute?_renderChat out
  rw [read, chatAttributes, List.append_assoc, List.find?_append, frame, Option.none_or]
  rfl

theorem scriptArgument?_renderChat (out : '"' ∉ viewer) :
    scriptArgument? (renderChat viewer title path) =
      some ((viewerLink viewer title path).takeWhile (· != '\'')) := by
  have opened : Text.cut? "openChatWindow('".toList (openScript (viewerLink viewer title path)) =
      some ([], viewerLink viewer title path ++ '\'' :: "); return false;".toList) := by
    unfold openScript
    rewrite [List.append_assoc]
    exact Text.cut?_front _ _
  obtain ⟨after, closed⟩ :=
    Text.cut?_mark_first '\'' (viewerLink viewer title path) "); return false;".toList
  unfold scriptArgument?
  simp only [onclick_renderChat out, opened, closed, Option.bind_eq_bind, Option.bind_some]
  rfl

/-- The fragment of a forwarded transcript stands in the rendered text, and its reference is the
link. The string that its script passes on is the link up to the first apostrophe, so both lead to
the same place exactly if there is none in the title and in the path. -/
theorem chat_script_argument {text : Text} (noQuote : '"' ∉ viewer) (noApostrophe : '\'' ∉ viewer)
    (member : .chat title path ∈ tokenize text) :
    renderChat viewer title path <:+: render viewer text ∧
      attribute? "href".toList (renderChat viewer title path) =
        some (viewerLink viewer title path) ∧
      scriptArgument? (renderChat viewer title path) =
        some ((viewerLink viewer title path).takeWhile (· != '\'')) ∧
      (scriptArgument? (renderChat viewer title path) = some (viewerLink viewer title path) ↔
        '\'' ∉ title ∧ '\'' ∉ path) := by
  refine ⟨?_, href_renderChat noQuote, scriptArgument?_renderChat noQuote, ?_⟩
  · obtain ⟨before, after, split⟩ := List.append_of_mem member
    rw [render, split, List.flatMap_append, List.flatMap_cons, ← List.append_assoc]
    exact ⟨before.flatMap (Token.render viewer), after.flatMap (Token.render viewer), rfl⟩
  · rw [scriptArgument?_renderChat noQuote, Option.some_inj, List.takeWhile_eq_self_iff,
      ← not_or, ← apostrophe_mem_viewerLink noApostrophe]
    grind

theorem chat_script_argument_plain :
    scriptArgument? (renderChat "https://v/".toList "Team chat".toList "a.json".toList) =
      some (viewerLink "https://v/".toList "Team chat".toList "a.json".toList) := by
  have bare : '"' ∉ "https://v/".toList ∧ '\'' ∉ "https://v/".toList := by decide
  have member : .chat "Team chat".toList "a.json".toList ∈
      tokenize "see [:chat:(Team chat)::a.json::]".toList := by decide +kernel
  obtain ⟨-, -, -, agree⟩ := chat_script_argument bare.1 bare.2 member
  exact agree.2 (by decide)

/-- An apostrophe in a title ends the string of the script. -/
theorem chat_script_cut_short :
    ¬ ∀ viewer text title path : Text, '"' ∉ viewer → '\'' ∉ viewer →
      .chat title path ∈ tokenize text →
      scriptArgument? (renderChat viewer title path) = some (viewerLink viewer title path) := by
  intro same
  have cut := same "https://v/".toList "[:chat:(it's)::a.json::]".toList "it's".toList
    "a.json".toList (by decide) (by decide) (by decide +kernel)
  revert cut
  decide +kernel

end Markup

end ChatTranscript
