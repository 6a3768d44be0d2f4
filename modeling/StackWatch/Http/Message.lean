import StackWatch.Http.Client
import StackWatch.Json.Printer
import StackWatch.Text.LowerCase

/-!
# Messages

The form that a request and its answer have on a connection: a start line, headers, an empty line
and a body. `Request.message` writes a request, asking that the connection be closed after the
answer, so that an answer is whatever arrives until then. `Answer.ofMessage` reads it: its body is
what its headers announce, in chunks or in one piece, and it counts as cut off if less than that
arrived. What has no complete head is no answer.
-/

namespace StackWatch

/-! ## Where a request goes -/

namespace Url

/-- The authority that a URL names: the server, as it is written. -/
def authority (url : String) : String :=
  String.ofList (((afterScheme? url.toList).getD []).takeWhile (!endsHost ·))

/-- What follows the authority: path and query. -/
def target (url : String) : String :=
  String.ofList (((afterScheme? url.toList).getD []).dropWhile (!endsHost ·))

/-- The host of an authority: an address in brackets, or everything up to a colon. -/
def host (authority : String) : String :=
  match authority.toList with
  | '[' :: rest => String.ofList (rest.takeWhile (· != ']'))
  | cs => String.ofList (cs.takeWhile (· != ':'))

/-- The number after the host of an authority, 80 if there is none. -/
def portNumber (authority : String) : UInt16 :=
  let afterHost := match authority.toList with
    | '[' :: rest => (rest.dropWhile (· != ']')).drop 1
    | cs => cs.dropWhile (· != ':')
  match afterHost with
  | ':' :: digits@(_ :: _) => UInt16.ofNat (Decimal.natOfDigits digits)
  | _ => 80

end Url

/-! ## Writing requests -/

/-- The end of a line. -/
def lineEnd : String := "\r\n"

/-- A header with its line end, if it has a value. -/
def headerLine (name : String) : Option String → String
  | none => ""
  | some value => name ++ ": " ++ value ++ lineEnd

/-- The name of a method. -/
def Method.text : Method → String
  | .get => "GET"
  | .post => "POST"

/-- The header of the bearer token. -/
def tokenHeader : String := "X-Auth-Token"

/-- The header of the token that keystone issues. -/
def subjectTokenHeader : String := "X-Subject-Token"

/-- The headers of a request that has a body, and the body after them. -/
def bodyPart : Option Json → String
  | none => lineEnd
  | some body =>
    headerLine "Content-Type" (some "application/json") ++
      headerLine "Content-Length" (some (Json.intText body.text.utf8ByteSize)) ++
        lineEnd ++ body.text

/-- A request as it is sent. -/
def Request.message (r : Request) : String :=
  r.method.text ++ " " ++ Url.target r.url ++ " HTTP/1.1" ++ lineEnd ++
    headerLine "Host" (some (Url.authority r.url)) ++ headerLine "Accept" (some "*/*") ++
    headerLine "Connection" (some "close") ++ headerLine tokenHeader r.token ++
    headerLine HttpClient.novaHeader r.novaVersion ++
    headerLine HttpClient.ironicHeader r.ironicVersion ++ bodyPart r.body

/-! ## Reading answers -/

/-- A line without its end, and what follows it; nothing if the line does not end. -/
def line? (bytes : List UInt8) : Option (List UInt8 × List UInt8) :=
  match bytes.dropWhile (· != 10) with
  | [] => none
  | _ :: rest => some ((bytes.takeWhile (· != 10)).filter (· != 13), rest)

/-- What follows a line is shorter than what begins with it. -/
theorem length_of_line? {bytes line rest : List UInt8} (h : line? bytes = some (line, rest)) :
    rest.length < bytes.length := by
  unfold line? at h
  split at h
  · cases h
  · next c tail hd =>
    cases h
    have := (List.dropWhile_suffix (· != 10) (l := bytes)).length_le
    rw [hd] at this
    exact this

/-- Bytes as characters, one for each. -/
def bytesText (bytes : List UInt8) : List Char := bytes.map fun b => Char.ofNat b.toNat

/-- The headers up to the empty line, names in lower case, and what follows them. -/
def headers? (bytes : List UInt8) : Option (List (String × String) × List UInt8) :=
  match h : line? bytes with
  | none => none
  | some ([], rest) => some ([], rest)
  | some (line, rest) =>
    have : rest.length < bytes.length := length_of_line? h
    match headers? rest with
    | none => none
    | some (headers, body) =>
      let cs := bytesText line
      let name := Text.lower (String.ofList (cs.takeWhile (· != ':')))
      let value := Text.trim (String.ofList ((cs.dropWhile (· != ':')).drop 1))
      some ((name, value) :: headers, body)
termination_by bytes.length

/-- The status of a status line: the second of its words. -/
def status? (line : List Char) : Option Nat :=
  match (line.dropWhile (· != ' ')).drop 1 with
  | a :: b :: c :: _ =>
    if "HTTP/".toList.isPrefixOf line && [a, b, c].all Decimal.isDigit then
      some (Decimal.natOfDigits [a, b, c])
    else none
  | _ => none

/-- A number in hexadecimal digits, up to the first character that is none. -/
def hexNumber : Nat → List Char → Nat
  | n, [] => n
  | n, c :: rest =>
    match Percent.hexValue? c with
    | none => n
    | some d => hexNumber (16 * n + d) rest

/-- The data of a body in chunks: each has its length in a line of its own, and a chunk without data
is the last. Nothing if one of them did not arrive in full. -/
def chunks? (bytes : List UInt8) : Option (List UInt8) :=
  match h : line? bytes with
  | none => none
  | some (line, rest) =>
    have : rest.length < bytes.length := length_of_line? h
    let size := hexNumber 0 (bytesText line)
    if size = 0 then some []
    else if rest.length < size + 2 then none
    else (chunks? (rest.drop (size + 2))).map (rest.take size ++ ·)
termination_by bytes.length
decreasing_by simp only [List.length_drop]; omega

/-- The data of a body that its headers announce, as far as it arrived in full. -/
def bodyData? (status : Nat) (headers : List (String × String)) (bytes : List UInt8) :
    Option (List UInt8) :=
  if status = 204 || status = 304 then some []
  else if (headers.lookup "transfer-encoding").any (Text.lower · = "chunked") then chunks? bytes
  else
    match headers.lookup "content-length" with
    | none => some bytes
    | some length =>
      let size := Decimal.natOfDigits length.toList
      if bytes.length < size then none else some (bytes.take size)

/-- The answer that arrived on a connection before it closed. -/
def Answer.ofMessage (bytes : List UInt8) (elapsed : Nat) : Answer :=
  match line? bytes with
  | none => .dropped
  | some (line, rest) =>
    match status? (bytesText line), headers? rest with
    | some status, some (headers, bytes) =>
      let token := (headers.lookup (Text.lower subjectTokenHeader)).bind readableToken
      match bodyData? status headers bytes with
      | none => .response status token .truncated elapsed
      | some data => .response status token (.ofBytes ⟨data.toArray⟩) elapsed
    | _, _ => .dropped

end StackWatch
