import StackWatch.Text.Percent

/-!
# Requested URLs and URLs on the wire

A URL is asked for as it is written in a catalog or put together by a query. It can be asked for if
it begins with one of the two `schemes`, in letters of either case, and names a host. Its `wire`
form, in which it reaches whoever answers, has a slash for an absent path, blanks and the bytes of
characters outside ASCII percent-encoded, and no fragment. Its `encoded` form, which a failure to
get an answer names, keeps the fragment and has the scheme in lower case.

Of what an HTTP client does with a URL, this is the part that the rest of the library depends on. A
client does more, which is left out here:

* it builds no request for some of the URLs that pass here: where the host has a character that no
  host may have (`http://a b/`), or is no valid address or domain name, or where what follows its
  colon is no port (`http://host:99999/`);
* it takes any number of slashes and backslashes after the colon of the scheme (`http:h`, `http:/h`
  and `http:///h` are all `http://h/` to it), and leaves out blanks and control characters around a
  URL and tabs and line ends within it, so that it asks for some URLs that do not pass here;
* it writes the host in lower case, and in ASCII where the domain name is not, leaves out the port
  that is the scheme's own, and sends a user name and a password before the host as a header;
* it reads a backslash in the path as a slash, resolves the segments `.` and `..`, and escapes
  control characters and a few more (`"`, `<` and `>`; in the path also a backquote and braces, in
  the query also an apostrophe).

Where two URLs differ in such things alone, whoever answers cannot tell one from the other. Here
that is left to the `Deployment`, which may give both the same answers, and which may leave without
an answer what a client would not ask for.
-/

namespace StackWatch.Url

/-- How the URLs that can be asked for begin: without TLS, and with it. -/
def schemes : List (List Char) := ["http://".toList, "https://".toList]

/-- The scheme of a URL, in lower case, if it is one of those that can be asked for. -/
def scheme? (cs : List Char) : Option (List Char) :=
  schemes.find? fun scheme => scheme.isPrefixOf (cs.map Char.toLower)

/-- What follows the scheme, if the URL has one. -/
def afterScheme? (cs : List Char) : Option (List Char) :=
  (scheme? cs).map fun scheme => cs.drop scheme.length

/-- Whether a URL is asked for over TLS. -/
def isSecure (url : String) : Bool := scheme? url.toList == some "https://".toList

/-- The characters that end the host: the path, the query or the fragment begins here. -/
def endsHost (c : Char) : Bool := c == '/' || c == '?' || c == '#'

/-- Whether a request for the URL can be built: it names a host. -/
def isRequestable (url : String) : Bool :=
  match afterScheme? url.toList with
  | some (c :: _) => !endsHost c
  | _ => false

/-- Host, path and query with a slash for an absent path. -/
def withPath (cs : List Char) : List Char :=
  match cs.dropWhile (!endsHost ·) with
  | '/' :: _ => cs
  | rest => cs.takeWhile (!endsHost ·) ++ '/' :: rest

/-- Whether a byte travels as it is: every character of ASCII except the blank. -/
def isWireByte (b : UInt8) : Bool := b.toNat < 128 && b.toNat != 32

/-- The characters of a URL with a path and in percent-encoding. -/
def encodedChars (cs : List Char) : List Char :=
  let whole := match scheme? cs with
    | some scheme => cs.take scheme.length ++ withPath (cs.drop scheme.length)
    | none => cs
  Percent.encodeBytes isWireByte (Percent.bytesOf (String.ofList whole))

/-- The characters of a URL with its scheme in lower case. -/
def lowerScheme (cs : List Char) : List Char :=
  match scheme? cs with
  | some scheme => scheme ++ cs.drop scheme.length
  | none => cs

/-- A URL with a path and in percent-encoding. -/
def encoded (url : String) : String := String.ofList (encodedChars (lowerScheme url.toList))

/-- A URL as it goes over the wire: with a path, in percent-encoding and without the fragment. -/
def wire (url : String) : String :=
  String.ofList (encodedChars (url.toList.takeWhile (· != '#')))

end StackWatch.Url
