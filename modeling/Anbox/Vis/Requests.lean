import Anbox.Foundation.JsonText
import Anbox.Json.Value
import Anbox.Vis.VisClient

/-!
# The texts of requests

`VisClient` prints its requests into a buffer of fixed size, with the path, the
subscription or the value of the caller put into a template as they are.  What
is sent is the intended request unless a text needs escapes or the request is
longer than the buffer.
-/

namespace Anbox.Vis.Requests

open Anbox.Foundation.JsonText
open Anbox.Vis.VisClient (Client ConnState Status WebSocket)

/-! ## Templates -/

def requestTemplateGet : Text :=
  ascii ("\x7b            \"action\": \"get\",            \"path\": \"%s\"," ++
    "            \"requestId\": \"%d\"    \x7d")

def requestTemplateSubscribe : Text :=
  ascii ("\x7b            \"action\": \"subscribe\"," ++
    "            \"path\": \"%s\",            \"requestId\": \"%d\"    \x7d")

def requestTemplateUnsubscribe : Text :=
  ascii ("\x7b            \"action\": \"unsubscribe\"," ++
    "            \"subscriptionId\": \"%s\"," ++
    "            \"requestId\": \"%d\"    \x7d")

def requestTemplateSet : Text :=
  ascii ("\x7b            \"action\": \"set\",            \"path\": \"%s\"," ++
    "            \"value\": %s,            \"requestId\": \"%d\"    \x7d")

def percent : UInt8 := 0x25

/-- Every conversion of a template takes the next of the printed arguments. -/
def format : Text → List Text → Text
  | [], _ => []
  | byte :: [], _ => [byte]
  | byte :: kind :: rest, arguments =>
      if byte = percent then
        arguments.headD [] ++ format rest arguments.tail
      else byte :: format (kind :: rest) arguments

def kMaxBufferLength : Nat := 1024

/-- The bytes of a C string end at the first zero. -/
def cString (text : Text) : Text :=
  text.takeWhile fun byte => byte != 0

/-- What the buffer holds after `snprintf`, without the zero at the end. -/
def buffered (text : Text) : Text :=
  text.take (kMaxBufferLength - 1)

/-- The length `snprintf` returns is negative if it is no `int`. -/
def printedLength (text : Text) : Int :=
  if (text.length : Int) ≤ Json.maxInt then text.length else -1

/-! ## Requests -/

/-- A request with the texts of the caller. -/
inductive Request where
  | get (propertyPath : Text)
  | set (propertyPath propertyValue : Text)
  | subscribe (propertyName : Text)
  | unsubscribe (subscriptionId : Text)
deriving DecidableEq, Repr

/-- The number of the request, and the text that is sent. -/
def sendWSMessage (client : Client) (templ param : Text) :
    Int × Option Text :=
  if client.ws.isSome then
    let id := client.requestId + 1
    (id, some (buffered (format templ [param, decimal id])))
  else (-1, none)

/-- The requests that have one text of the caller in them. -/
def sendRequest (client : Client) (templ param : Text) :
    Status × Option Text :=
  if client.connectedState = .disconnected then (.invalidState, none)
  else
    let (id, sent) := sendWSMessage client templ (cString param)
    (if id < 0 then .unknownError else .ok, sent)

def getProperty (client : Client) (propertyPath : Text) :
    Status × Option Text :=
  sendRequest client requestTemplateGet propertyPath

def subscribeProperty (client : Client) (propertyName : Text) :
    Status × Option Text :=
  sendRequest client requestTemplateSubscribe propertyName

def unsubscribe (client : Client) (subscriptionId : Text) :
    Status × Option Text :=
  sendRequest client requestTemplateUnsubscribe subscriptionId

/-- This one looks at the length, but not whether the text was cut. -/
def setProperty (client : Client) (propertyPath propertyValue : Text) :
    Status × Option Text :=
  if client.connectedState = .disconnected then (.invalidState, none)
  else
    let text := format requestTemplateSet
      [cString propertyPath, cString propertyValue,
        decimal (client.requestId + 1)]
    if 0 < printedLength text then
      if client.ws.isSome then (.ok, some (buffered text))
      else (.unknownError, none)
    else (.unknownError, none)

def perform (client : Client) : Request → Status × Option Text
  | .get propertyPath => getProperty client propertyPath
  | .set propertyPath propertyValue =>
      setProperty client propertyPath propertyValue
  | .subscribe propertyName => subscribeProperty client propertyName
  | .unsubscribe subscriptionId => unsubscribe client subscriptionId

/-! ## Texts of requests -/

def indent : Text := ascii "            "

/-- A member on a line of its own. -/
def memberText (name rest : Text) : Text :=
  indent ++ quote :: (name ++ quote :: colon :: space :: rest)

def stringText (content rest : Text) : Text :=
  quote :: (content ++ quote :: rest)

/-- The members that every request begins with, and the others. -/
def requestText (action key param rest : Text) : Text :=
  openBrace :: memberText (ascii "action") (stringText action
    (comma :: memberText key (stringText param (comma :: rest))))

def numberText (id : Int) : Text :=
  memberText (ascii "requestId") (stringText (decimal id) (ascii "    \x7d"))

def valueText (value : Text) (id : Int) : Text :=
  memberText (ascii "value") (value ++ comma :: numberText id)

/-- The template is copied up to a conversion, which takes an argument. -/
theorem format_conversion {literal : Text} (noPercent : percent ∉ literal)
    (kind : UInt8) (rest : Text) (arguments : List Text) :
    format (literal ++ percent :: kind :: rest) arguments =
      literal ++ (arguments.headD [] ++ format rest arguments.tail) := by
  induction literal with
  | nil => simp only [List.nil_append, format, if_true]
  | cons byte literal inductionHypothesis =>
      rw [List.mem_cons, not_or] at noPercent
      have copied (next : UInt8) (after : Text) :
          format (byte :: next :: after) arguments =
            byte :: format (next :: after) arguments := by
        rw [format, if_neg (Ne.symm noPercent.1)]
      have continued := inductionHypothesis noPercent.2
      cases literal with
      | nil =>
          rw [List.nil_append] at continued
          rw [List.singleton_append, copied, continued]
          rfl
      | cons next literal =>
          rw [List.cons_append] at continued
          rw [List.cons_append, List.cons_append, copied, continued]
          rfl

/-- What a request begins with, up to the text of the caller. -/
def opening (action key : Text) : Text :=
  openBrace :: memberText (ascii "action") (stringText action
    (comma :: memberText key [quote]))

def numberOpening : Text := memberText (ascii "requestId") [quote]

def ending : Text := quote :: ascii "    \x7d"

theorem requestText_eq (action key param rest : Text) :
    requestText action key param rest =
      opening action key ++ (param ++ quote :: comma :: rest) := by
  simp [requestText, opening, memberText, stringText]

theorem numberText_eq (id : Int) :
    numberText id = numberOpening ++ (decimal id ++ ending) := by
  simp [numberText, numberOpening, ending, memberText, stringText]

theorem format_ending : format ending [] = ending := by
  decide

/-- A template with one text of the caller. -/
def template (action key : Text) : Text :=
  opening action key ++ percent :: 0x73 ::
    (quote :: comma :: numberOpening ++ percent :: 0x64 :: ending)

theorem format_template {action key : Text}
    (noPercent : percent ∉ opening action key) (param : Text) (id : Int) :
    format (template action key) [param, decimal id] =
      requestText action key param (numberText id) := by
  have noPercentBetween : percent ∉ quote :: comma :: numberOpening := by
    decide
  rw [template, format_conversion noPercent]
  simp only [List.headD_cons, List.tail_cons]
  rw [format_conversion noPercentBetween]
  simp only [List.headD_cons, List.tail_cons]
  rw [format_ending, requestText_eq, numberText_eq]
  rfl

/-- The template of `set` has the text of the value without quotes. -/
def valueTemplate : Text :=
  opening (ascii "set") (ascii "path") ++ percent :: 0x73 ::
    (quote :: comma :: memberText (ascii "value") [] ++ percent :: 0x73 ::
      (comma :: numberOpening ++ percent :: 0x64 :: ending))

theorem requestTemplateGet_eq :
    requestTemplateGet = template (ascii "get") (ascii "path") := by
  decide

theorem requestTemplateSubscribe_eq :
    requestTemplateSubscribe =
      template (ascii "subscribe") (ascii "path") := by
  decide

theorem requestTemplateUnsubscribe_eq :
    requestTemplateUnsubscribe =
      template (ascii "unsubscribe") (ascii "subscriptionId") := by
  decide

theorem requestTemplateSet_eq : requestTemplateSet = valueTemplate := by
  decide

theorem format_get (param : Text) (id : Int) :
    format requestTemplateGet [param, decimal id] =
      requestText (ascii "get") (ascii "path") param (numberText id) := by
  rw [requestTemplateGet_eq, format_template (by decide)]

theorem format_subscribe (param : Text) (id : Int) :
    format requestTemplateSubscribe [param, decimal id] =
      requestText (ascii "subscribe") (ascii "path") param
        (numberText id) := by
  rw [requestTemplateSubscribe_eq, format_template (by decide)]

theorem format_unsubscribe (param : Text) (id : Int) :
    format requestTemplateUnsubscribe [param, decimal id] =
      requestText (ascii "unsubscribe") (ascii "subscriptionId") param
        (numberText id) := by
  rw [requestTemplateUnsubscribe_eq, format_template (by decide)]

theorem format_set (param value : Text) (id : Int) :
    format requestTemplateSet [param, value, decimal id] =
      requestText (ascii "set") (ascii "path") param
        (valueText value id) := by
  have noPercent :
      percent ∉ opening (ascii "set") (ascii "path") := by
    decide
  have noPercentValue :
      percent ∉ quote :: comma :: memberText (ascii "value") [] := by
    decide
  have noPercentBetween : percent ∉ comma :: numberOpening := by
    decide
  rw [requestTemplateSet_eq, valueTemplate, format_conversion noPercent]
  simp only [List.headD_cons, List.tail_cons]
  rw [format_conversion noPercentValue]
  simp only [List.headD_cons, List.tail_cons]
  rw [format_conversion noPercentBetween]
  simp only [List.headD_cons, List.tail_cons]
  rw [format_ending, requestText_eq, valueText, numberText_eq]
  simp [memberText]

/-! ## Reading requests -/

theorem skipSpaces_memberText (name rest : Text) :
    skipSpaces (memberText name rest) =
      quote :: (name ++ quote :: colon :: space :: rest) := by
  rw [memberText, skipSpaces_append_left (by decide),
    skipSpaces_cons_of_not_space (by decide)]

theorem skipSpaces_space_quote (rest : Text) :
    skipSpaces (space :: quote :: rest) = quote :: rest := by
  rw [skipSpaces_cons_of_space (by decide),
    skipSpaces_cons_of_not_space (by decide)]

/-- A member with a plain string that is followed by other members. -/
theorem readsMembers_string_then_iff {name content : Text}
    (plainName : Plain name) (plain : Plain content)
    {rest last : Text} {members : List (Text × Value)} :
    ReadsMembers
        (skipSpaces (memberText name (stringText content (comma :: rest))))
        members last ↔
      ∃ others, ReadsMembers (skipSpaces rest) others last ∧
        members = (name, .string content) :: others := by
  have string := readsString_plain plain (comma :: rest)
  have isComma := expect_cons (by decide : isSpace comma = false) rest
  rw [skipSpaces_memberText, readsMembers_named_iff plainName, stringText,
    skipSpaces_space_quote]
  constructor
  · rintro ⟨value, behind, reads, continued⟩
    rcases reads_quote_iff.mp reads with ⟨content', rfl, read⟩
    rcases string.unique read with ⟨rfl, rfl⟩
    rcases continued with ⟨next, others, found, later, rfl⟩ | ⟨none, -⟩
    · rw [isComma] at found
      cases found
      exact ⟨others, later, rfl⟩
    · rw [isComma] at none
      cases none
  · rintro ⟨others, later, rfl⟩
    exact ⟨.string content, comma :: rest,
      reads_quote_iff.mpr ⟨content, rfl, string⟩,
      Or.inl ⟨rest, others, isComma, later, rfl⟩⟩

/-- The last member, and what closes the request. -/
theorem readsMembers_numberText (id : Int) :
    ReadsMembers (skipSpaces (numberText id))
      [(ascii "requestId", .string (decimal id))] [] := by
  rw [numberText, skipSpaces_memberText,
    readsMembers_named_iff (by decide), stringText,
    skipSpaces_space_quote]
  exact ⟨.string (decimal id), ascii "    \x7d",
    reads_quote_iff.mpr ⟨_, rfl, readsString_plain (plain_decimal id) _⟩,
    Or.inr ⟨by decide, by decide, rfl⟩⟩

theorem expect_closeBrace_memberText (name rest : Text) :
    expect closeBrace (memberText name rest) = none := by
  rw [expect_of_skipSpaces_eq (skipSpaces_memberText name rest),
    if_neg (by decide)]

/-- A request is an object with these members if its texts are plain. -/
theorem reads_requestText {action key param rest : Text}
    {members : List (Text × Value)} (plainAction : Plain action)
    (plainKey : Plain key) (plain : Plain param)
    (reads : ReadsMembers (skipSpaces rest) members []) :
    Reads (requestText action key param rest)
      (.object ((ascii "action", .string action) ::
        (key, .string param) :: members)) [] := by
  rw [requestText,
    reads_openBrace_iff (expect_closeBrace_memberText _ _)]
  refine ⟨_, rfl, ?_⟩
  rw [readsMembers_string_then_iff (by decide) plainAction]
  refine ⟨_, ?_, rfl⟩
  rw [readsMembers_string_then_iff plainKey plain]
  exact ⟨members, reads, rfl⟩

/--
If a string that is no shorter than the printed text is read then it is this
text, and it is plain.  Where a backslash at its end takes the quote, the
string would end at the name of the next member, where there is no sign.
-/
theorem plain_of_reads {action key param content name rest last : Text}
    {first : UInt8} {members : List (Text × Value)}
    (plainAction : Plain action) (plainKey : Plain key)
    (word : isWord first = true) (fits : param.length ≤ content.length)
    (reads :
      Reads (requestText action key param (memberText (first :: name) rest))
        (.object ((ascii "action", .string action) ::
          (key, .string content) :: members)) last) :
    Plain param ∧ content = param := by
  rw [requestText,
    reads_openBrace_iff (expect_closeBrace_memberText _ _)] at reads
  rcases reads with ⟨all, same, readsAll⟩
  cases same
  rw [readsMembers_string_then_iff (by decide) plainAction]
    at readsAll
  rcases readsAll with ⟨others, readsOthers, same⟩
  cases same
  rw [skipSpaces_memberText, readsMembers_named_iff plainKey, stringText,
    skipSpaces_space_quote] at readsOthers
  rcases readsOthers with ⟨value, behind, readsValue, continued⟩
  rcases reads_quote_iff.mp readsValue with ⟨read, rfl, string⟩
  have same : read = content := by
    rcases continued with ⟨next, later, -, -, same⟩ | ⟨-, -, same⟩
    · cases same
      rfl
    · cases same
      rfl
  subst same
  rcases readsString_between string with
    shorter | ⟨-, plain, same⟩ | ⟨later, escaped⟩
  · exact absurd shorter (Nat.not_lt.mpr fits)
  · exact ⟨plain, same⟩
  · -- The string goes on up to the quote before the name of the next member.
    have stops : ReadsString
        ((comma :: indent) ++ quote ::
          (first :: name ++ quote :: colon :: space :: rest))
        (comma :: indent)
        (first :: name ++ quote :: colon :: space :: rest) :=
      readsString_plain (by decide) _
    rcases stops.unique escaped with ⟨-, rfl⟩
    have noSign {sign : UInt8} (notWord : isWord sign = false) :
        expect sign
            (first :: name ++ quote :: colon :: space :: rest) = none := by
      have other : first ≠ sign := by
        rintro rfl
        rw [word] at notWord
        cases notWord
      rw [List.cons_append, expect_of_skipSpaces_eq
        (skipSpaces_cons_of_not_space (not_isSpace_of_isWord word) _),
        if_neg other]
    rcases continued with ⟨next, others, found, -, -⟩ | ⟨-, found, -⟩
    · rw [noSign (by decide)] at found
      cases found
    · rw [noSign (by decide)] at found
      cases found

theorem skipSpaces_requestText (action key param rest : Text) :
    skipSpaces (requestText action key param rest) =
      requestText action key param rest :=
  skipSpaces_cons_of_not_space (by decide) _

/-- If the start of a request that fits into the buffer is an object, the
request begins with this object. -/
theorem reads_of_denotes_buffered {action key param rest : Text}
    {members : List (Text × Value)}
    (denotes :
      Denotes (buffered (requestText action key param rest))
        (.object members)) :
    ∃ last, Reads (requestText action key param rest) (.object members)
      (last ++ (requestText action key param rest).drop
        (kMaxBufferLength - 1)) := by
  let body := ascii "action" ++ quote :: colon :: space ::
    stringText action (comma :: memberText key (stringText param
      (comma :: rest)))
  have whole : requestText action key param rest =
      openBrace :: (indent ++ quote :: body) := rfl
  have size : indent.length = 12 := by decide
  have cut : buffered (requestText action key param rest) =
      openBrace :: (indent ++ quote :: body.take 1009) := by
    rw [buffered, whole, kMaxBufferLength, List.take_succ_cons,
      List.take_append, size, List.take_of_length_le (by rw [size]; decide),
      List.take_succ_cons]
  have others :
      (requestText action key param rest).drop (kMaxBufferLength - 1) =
        body.drop 1009 := by
    rw [whole, kMaxBufferLength, List.drop_succ_cons, List.drop_append, size,
      List.drop_of_length_le (by rw [size]; decide), List.drop_succ_cons,
      List.nil_append]
  have skipped (text : Text) :
      skipSpaces (indent ++ quote :: text) = quote :: text := by
    rw [skipSpaces_append_left (by decide),
      skipSpaces_cons_of_not_space (by decide)]
  have notClosed (text : Text) :
      expect closeBrace (indent ++ quote :: text) = none := by
    rw [expect_of_skipSpaces_eq (skipped text), if_neg (by decide)]
  rcases denotes_iff.mp denotes with ⟨last, reads, -⟩
  rw [cut, skipSpaces_cons_of_not_space (by decide),
    reads_openBrace_iff (notClosed _), skipped] at reads
  rcases reads with ⟨members', ⟨⟩, reads⟩
  refine ⟨last, ?_⟩
  rw [others, whole, reads_openBrace_iff (notClosed _), skipped]
  refine ⟨members, rfl, ?_⟩
  have longer := reads.append (body.drop 1009)
  rwa [List.cons_append, List.take_append_drop] at longer

theorem length_cString_le (text : Text) :
    (cString text).length ≤ text.length :=
  (List.takeWhile_sublist _).length_le

theorem cString_of_plain {text : Text} (plain : Plain text) :
    cString text = text := by
  refine List.takeWhile_eq_self_iff.mpr fun byte member => ?_
  have nonzero : byte ≠ 0 := by
    rintro rfl
    exact absurd (plain 0 member) (by decide)
  simpa using nonzero

/-- What is sent is the intended request if its text is plain and fits. -/
theorem denotes_buffered_iff {action key content name rest : Text}
    {first : UInt8} {members : List (Text × Value)}
    (plainAction : Plain action) (plainKey : Plain key)
    (word : isWord first = true)
    (reads :
      ReadsMembers (skipSpaces (memberText (first :: name) rest)) members
        []) :
    Denotes
        (buffered
          (requestText action key (cString content)
            (memberText (first :: name) rest)))
        (.object ((ascii "action", .string action) ::
          (key, .string content) :: members)) ↔
      Plain content ∧
        (requestText action key (cString content)
            (memberText (first :: name) rest)).length <
          kMaxBufferLength := by
  constructor
  · intro denotes
    rcases reads_of_denotes_buffered denotes with ⟨last, readsWhole⟩
    rcases plain_of_reads plainAction plainKey word
        (length_cString_le content) readsWhole with
      ⟨plain, same⟩
    have complete := reads_requestText plainAction plainKey plain reads
    have nothing := (complete.unique readsWhole).2
    have short := List.drop_eq_nil_iff.mp
      (List.append_eq_nil_iff.mp nothing).2
    exact ⟨same ▸ plain, Nat.lt_of_le_pred (by decide) short⟩
  · rintro ⟨plain, short⟩
    rw [buffered, List.take_of_length_le (Nat.le_sub_one_of_lt short)]
    refine denotes_iff.mpr ⟨[], ?_, rfl⟩
    rw [skipSpaces_requestText, cString_of_plain plain]
    exact reads_requestText plainAction plainKey plain reads

/-- A JSON text as the value of a member. -/
theorem readsMembers_valueText {value : Text} {json : Value} (id : Int)
    (denotes : Denotes value json) :
    ReadsMembers (skipSpaces (valueText value id))
      [(ascii "value", json), (ascii "requestId", .string (decimal id))]
      [] := by
  rcases denotes_iff.mp denotes with ⟨last, reads, ended⟩
  have nonempty : skipSpaces value ≠ [] := by
    intro none
    rw [none] at reads
    rcases reads with ⟨bound, read⟩
    cases bound with
    | zero => cases read
    | succ bound => cases read
  have stops : Ended last (comma :: numberText id) := by
    rintro - byte ⟨⟩
    decide
  rw [valueText, skipSpaces_memberText,
    readsMembers_named_iff (by decide),
    skipSpaces_cons_of_space (by decide),
    skipSpaces_append_right nonempty]
  refine ⟨json, _, reads.append stops, Or.inl ⟨numberText id, _, ?_,
    readsMembers_numberText id, rfl⟩⟩
  have isComma := expect_cons (by decide : isSpace comma = false)
    (numberText id)
  rwa [← expect_skipSpaces, skipSpaces_append_of_eq_nil ended,
    expect_skipSpaces]

/-! ## Sending requests -/

/-- The template of a request. -/
def templateOf : Request → Text
  | .get _ => requestTemplateGet
  | .set _ _ => requestTemplateSet
  | .subscribe _ => requestTemplateSubscribe
  | .unsubscribe _ => requestTemplateUnsubscribe

/-- The text that a request puts between quotes. -/
def quotedText : Request → Text
  | .get propertyPath => propertyPath
  | .set propertyPath _ => propertyPath
  | .subscribe propertyName => propertyName
  | .unsubscribe subscriptionId => subscriptionId

/-- What is printed for the conversions of the template. -/
def printedTexts (client : Client) : Request → List Text
  | .set propertyPath propertyValue =>
      [cString propertyPath, cString propertyValue,
        decimal (client.requestId + 1)]
  | request =>
      [cString (quotedText request), decimal (client.requestId + 1)]

/-- The length of the request: two bytes of the template are a conversion. -/
def requestLength (client : Client) (request : Request) : Nat :=
  (templateOf request).length - 2 * (printedTexts client request).length +
    ((printedTexts client request).map List.length).sum

/-- The object that a request is meant to be. -/
def intended (client : Client) (json : Value) (request : Request) : Value :=
  let object (action key : Text) (members : List (Text × Value)) : Value :=
    .object ((ascii "action", .string action) ::
      (key, .string (quotedText request)) :: members ++
        [(ascii "requestId", .string (decimal (client.requestId + 1)))])
  match request with
  | .get _ => object (ascii "get") (ascii "path") []
  | .set _ _ => object (ascii "set") (ascii "path") [(ascii "value", json)]
  | .subscribe _ => object (ascii "subscribe") (ascii "path") []
  | .unsubscribe _ =>
      object (ascii "unsubscribe") (ascii "subscriptionId") []

/-- A request that returns `OK` has sent the object it is meant to be. -/
def SentAsIntended (client : Client) (json : Value) (request : Request) :
    Prop :=
  (perform client request).1 = .ok →
    ∃ text, (perform client request).2 = some text ∧
      Denotes text (intended client json request)

/-- The requests that are not made, or are taken for failed ones. -/
def Fails (client : Client) (request : Request) : Prop :=
  client.connectedState = .disconnected ∨ client.ws = none ∨
    match request with
    | .set _ _ => Json.maxInt < requestLength client request
    | _ => client.requestId + 1 < 0

theorem length_requestText_numberText (action key param : Text) (id : Int) :
    (requestText action key param (numberText id)).length =
      (template action key).length - 4 +
        (param.length + (decimal id).length) := by
  rw [requestText_eq, numberText_eq, template]
  simp only [List.length_append, List.length_cons]
  omega

theorem length_requestText_valueText (param value : Text) (id : Int) :
    (requestText (ascii "set") (ascii "path") param
        (valueText value id)).length =
      valueTemplate.length - 6 +
        (param.length + (value.length + (decimal id).length)) := by
  rw [requestText_eq, valueText, numberText_eq, valueTemplate]
  simp only [memberText, List.length_append, List.length_cons,
    List.length_nil]
  omega

theorem requestLength_eq (client : Client) (request : Request) :
    (format (templateOf request) (printedTexts client request)).length =
      requestLength client request := by
  cases request with
  | get propertyPath =>
      simp only [templateOf, printedTexts, requestLength]
      rw [format_get, length_requestText_numberText, requestTemplateGet_eq]
      rfl
  | set propertyPath propertyValue =>
      simp only [templateOf, printedTexts, requestLength]
      rw [format_set, length_requestText_valueText, requestTemplateSet_eq]
      rfl
  | subscribe propertyName =>
      simp only [templateOf, printedTexts, requestLength]
      rw [format_subscribe, length_requestText_numberText,
        requestTemplateSubscribe_eq]
      rfl
  | unsubscribe subscriptionId =>
      simp only [templateOf, printedTexts, requestLength]
      rw [format_unsubscribe, length_requestText_numberText,
        requestTemplateUnsubscribe_eq]
      rfl

theorem printedLength_pos_iff {text : Text} (nonempty : text ≠ []) :
    0 < printedLength text ↔ ¬ Json.maxInt < text.length := by
  have positive := List.length_pos_iff.mpr nonempty
  unfold printedLength
  split
  · omega
  · omega

/-- The outcome of a request that is made. -/
theorem perform_of_not_fails {client : Client} {request : Request}
    (made : ¬ Fails client request) :
    perform client request =
      (.ok, some (buffered
        (format (templateOf request) (printedTexts client request)))) := by
  simp only [Fails, not_or] at made
  rcases made with ⟨connected, hasSocket, counts⟩
  have isSome : client.ws.isSome = true :=
    Option.isSome_iff_ne_none.mpr hasSocket
  cases request with
  | set propertyPath propertyValue =>
      simp only [← requestLength_eq, templateOf, printedTexts] at counts
      rw [← printedLength_pos_iff (by rw [format_set]; exact nofun)] at counts
      simp only [perform, setProperty, if_neg connected, if_pos counts,
        isSome, if_true]
      rfl
  | get param | subscribe param | unsubscribe param =>
      simp only at counts
      simp only [perform, getProperty, subscribeProperty, unsubscribe,
        sendRequest, if_neg connected, sendWSMessage, isSome, if_true,
        if_neg counts]
      rfl

theorem perform_of_fails {client : Client} {request : Request}
    (fails : Fails client request) :
    (perform client request).1 ≠ .ok := by
  by_cases disconnected : client.connectedState = .disconnected
  · cases request with
    | get | set | subscribe | unsubscribe =>
        simp [perform, getProperty, setProperty, subscribeProperty,
          unsubscribe, sendRequest, disconnected]
  · rcases fails with isDisconnected | noSocket | refused
    · exact absurd isDisconnected disconnected
    · cases request with
      | set propertyPath propertyValue =>
          simp only [perform, setProperty, if_neg disconnected, noSocket,
            Option.isSome_none, Bool.false_eq_true, if_false]
          split
          · simp
          · simp
      | get | subscribe | unsubscribe =>
          simp [perform, getProperty, subscribeProperty, unsubscribe,
            sendRequest, sendWSMessage, noSocket, disconnected]
    · cases request with
      | set propertyPath propertyValue =>
          simp only [← requestLength_eq, templateOf, printedTexts] at refused
          have short := mt
            (printedLength_pos_iff (by rw [format_set]; exact nofun)).mp
            (not_not.mpr refused)
          simp only [perform, setProperty, if_neg disconnected, if_neg short]
          simp
      | get | subscribe | unsubscribe =>
          simp only at refused
          cases hasSocket : client.ws with
          | none =>
              simp [perform, getProperty, subscribeProperty, unsubscribe,
                sendRequest, sendWSMessage, disconnected, hasSocket]
          | some ws =>
              simp [perform, getProperty, subscribeProperty, unsubscribe,
                sendRequest, sendWSMessage, disconnected, hasSocket, refused]

/-- The request with the bytes of its texts. -/
def ofRequest : VisClient.Request → Option Request
  | .get path => some (.get path.toUTF8.toList)
  | .set path value => some (.set path.toUTF8.toList value.toUTF8.toList)
  | .subscribe path => some (.subscribe path.toUTF8.toList)
  | .unsubscribe subscriptionId =>
      some (.unsubscribe subscriptionId.toUTF8.toList)
  | .unsubscribeAll => none

/-- The client that does not print its requests returns the same status. -/
theorem perform_status {client : Client} {request : VisClient.Request}
    {printed : Request} (same : ofRequest request = some printed)
    (connected : client.connectedState ≠ .disconnected)
    (made : client.ws ≠ none → ¬ Fails client printed)
    (ticket : VisClient.Ticket) :
    (VisClient.perform client ticket request).2.1 =
      (perform client printed).1 := by
  cases hasSocket : client.ws with
  | none =>
      cases request with
      | unsubscribeAll => cases same
      | set path value =>
          cases same
          simp only [VisClient.perform, VisClient.setProperty, perform,
            setProperty, if_neg connected, hasSocket, Option.isSome_none,
            Bool.false_eq_true, if_false]
          split
          · rfl
          · rfl
      | get | subscribe | unsubscribe =>
          cases same
          simp [VisClient.perform, VisClient.getProperty,
            VisClient.subscribeProperty, VisClient.unsubscribe,
            VisClient.sendRequest, VisClient.sendObserverRequest,
            VisClient.sendWSMessage, perform, getProperty, subscribeProperty,
            unsubscribe, sendRequest, sendWSMessage, connected, hasSocket]
  | some ws =>
      rw [perform_of_not_fails (made (by simp [hasSocket]))]
      cases request with
      | unsubscribeAll => cases same
      | get | set | subscribe | unsubscribe =>
          simp [VisClient.perform, VisClient.getProperty,
            VisClient.setProperty, VisClient.subscribeProperty,
            VisClient.unsubscribe, VisClient.sendRequest,
            VisClient.sendObserverRequest, VisClient.sendWSMessage,
            VisClient.awaitAnswer, hasSocket]

/-- A request that is made is the object it is meant to be if its text needs
no escapes and it fits into the buffer. -/
theorem sentAsIntended_iff_of_not_fails {client : Client} {request : Request}
    {json : Value}
    (valueIsJson :
      ∀ path value, request = .set path value → Denotes value json)
    (made : ¬ Fails client request) :
    SentAsIntended client json request ↔
      Plain (quotedText request) ∧
        requestLength client request < kMaxBufferLength := by
  have sent :
      SentAsIntended client json request ↔
        Denotes
          (buffered
            (format (templateOf request) (printedTexts client request)))
          (intended client json request) := by
    simp [SentAsIntended, perform_of_not_fails made]
  rw [sent, ← requestLength_eq]
  cases request with
  | get propertyPath =>
      simp only [templateOf, printedTexts, quotedText, format_get]
      exact denotes_buffered_iff (by decide) (by decide)
        (by decide) (readsMembers_numberText _)
  | set propertyPath propertyValue =>
      have denotes := valueIsJson propertyPath propertyValue rfl
      have noZero : cString propertyValue = propertyValue := by
        refine List.takeWhile_eq_self_iff.mpr fun byte member => ?_
        have nonzero : byte ≠ 0 := by
          rintro rfl
          exact denotes.not_mem_control (by decide) (by decide) member
        simpa using nonzero
      simp only [templateOf, printedTexts, quotedText, format_set, noZero]
      exact denotes_buffered_iff (by decide) (by decide)
        (by decide) (readsMembers_valueText _ denotes)
  | subscribe propertyName =>
      simp only [templateOf, printedTexts, quotedText, format_subscribe]
      exact denotes_buffered_iff (by decide) (by decide)
        (by decide) (readsMembers_numberText _)
  | unsubscribe subscriptionId =>
      simp only [templateOf, printedTexts, quotedText, format_unsubscribe]
      exact denotes_buffered_iff (by decide) (by decide)
        (by decide) (readsMembers_numberText _)

/-- The request of the caller is what is sent, or the call reports a
failure, unless a text has to be escaped or the request is too long. -/
theorem sent_as_intended_iff (client : Client) (request : Request)
    (json : Value)
    (valueIsJson :
      ∀ path value, request = .set path value → Denotes value json) :
    SentAsIntended client json request ↔
      Fails client request ∨
        Plain (quotedText request) ∧
          requestLength client request < kMaxBufferLength := by
  by_cases fails : Fails client request
  · exact iff_of_true
      (fun accepted => absurd accepted (perform_of_fails fails))
      (Or.inl fails)
  · rw [or_iff_right fails]
    exact sentAsIntended_iff_of_not_fails valueIsJson fails

/-- The client once it is connected. -/
def connectedClient : Client :=
  { Client.initial with connectedState := .connected, ws := some 0 }

theorem sent_as_intended_iff_speed :
    SentAsIntended connectedClient (.number (decimal 50))
        (.set (ascii "Vehicle.Speed") (decimal 50)) ↔
      Fails connectedClient (.set (ascii "Vehicle.Speed") (decimal 50)) ∨
        Plain (ascii "Vehicle.Speed") ∧
          requestLength connectedClient
              (.set (ascii "Vehicle.Speed") (decimal 50)) <
            kMaxBufferLength :=
  sent_as_intended_iff connectedClient
    (.set (ascii "Vehicle.Speed") (decimal 50)) (.number (decimal 50))
    (by
      rintro path value ⟨⟩
      exact denotes_decimal 50)

/-- A path with a quote in it is sent as it is. -/
theorem quote_in_path_sent :
    ¬ SentAsIntended connectedClient .null (.get [quote]) := by
  have made : ¬ Fails connectedClient (.get [quote]) := by
    rintro (disconnected | noSocket | negative)
    · cases disconnected
    · cases noSocket
    · exact absurd negative (by decide)
  rw [sentAsIntended_iff_of_not_fails (by rintro path value ⟨⟩) made]
  rintro ⟨plain, -⟩
  exact absurd plain (by decide)

end Anbox.Vis.Requests
