import ChatTranscript.Main
import ChatTranscript.Fetch.Library
import ChatTranscript.Template.Gathering
import ChatTranscript.Proofs.Transcript.Outcome
import ChatTranscript.Proofs.Card.Accepted
import ChatTranscript.Proofs.Template.Evaluation
import ChatTranscript.Proofs.Template.Dependence
import ChatTranscript.Proofs.Template.Requests
import ChatTranscript.Proofs.Template.SharedFetch
import ChatTranscript.Proofs.Transcript.Repeats
import ChatTranscript.Proofs.Markup.Recognition
import ChatTranscript.Proofs.Json.Canonical
import ChatTranscript.Proofs.Click.Registration
import ChatTranscript.Proofs.Click.History
import ChatTranscript.Proofs.Transcript.Composition
import ChatTranscript.Proofs.Transcript.HiddenAvatars
import ChatTranscript.Proofs.Transcript.Again
import ChatTranscript.Proofs.Transcript.Rejected
import ChatTranscript.Proofs.Transcript.Loading
import ChatTranscript.Proofs.Fetch.Locations
import ChatTranscript.Proofs.Click.Parameters
import ChatTranscript.Proofs.Template.StyleHistory
import ChatTranscript.Proofs.CommandLine.Outcome
import ChatTranscript.Proofs.Markup.Alone
import ChatTranscript.Proofs.Session.CardText
import ChatTranscript.Proofs.Avatar.Turns
import ChatTranscript.Proofs.Template.Schedules
import ChatTranscript.Proofs.Markup.Unchanged
import ChatTranscript.Proofs.Markup.ViewerLink
import ChatTranscript.Proofs.Template.ClickAttributes
import ChatTranscript.Proofs.Card.Lookup
import ChatTranscript.Proofs.Transcript.Documents
import ChatTranscript.Proofs.Click.Identity
import ChatTranscript.Proofs.CommandLine.Source
import ChatTranscript.Proofs.Template.WrittenPath
import ChatTranscript.Proofs.Html.Values
import ChatTranscript.Proofs.Template.StyleBlock
import ChatTranscript.Proofs.Click.JumpUrl
import ChatTranscript.Proofs.Click.Answers
import ChatTranscript.Proofs.Fetch.FileUrl
