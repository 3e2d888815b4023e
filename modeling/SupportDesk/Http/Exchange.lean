/-
# One exchange over a connection

A client that makes one request on each connection writes the request, reads until the
server closes the connection, and takes the status and the body from what it read.  Asking
by version 1.0 keeps the body in one piece.
-/

import SupportDesk.Http.Url
import SupportDesk.Json.Writer

namespace SupportDesk.Http

/-- The lines of a request with their ends, followed by the body. -/
def requestText (method : String) (url : Url) (body : Option Json) : String :=
  let content := (body.map Json.text).getD ""
  let headers :=
    [method ++ " " ++ url.target ++ " HTTP/1.0", "Host: " ++ url.host.getD "",
     "Content-Length: " ++ toString content.utf8ByteSize]
      ++ (if body.isSome then ["Content-Type: application/json"] else [])
  String.join (headers.map (· ++ "\r\n")) ++ "\r\n" ++ content

/-- The status of the first line of an answer. -/
def statusOf? (line : List Char) : Option Nat :=
  let code := (line.dropWhile (· != ' ')).drop 1 |>.takeWhile (· != ' ')
  if code.isEmpty then none else Digits.readDecimal? code

/-- What follows the first empty line. -/
def bodyOf? : List UInt8 → Option (List UInt8)
  | 13 :: 10 :: 13 :: 10 :: body => some body
  | _ :: rest => bodyOf? rest
  | [] => none

/-- The status and the body of an answer. -/
def readAnswer? (answer : List UInt8) : Option (Nat × List UInt8) := do
  let status ← statusOf? ((answer.takeWhile (· != 13)).map Char.ofUInt8)
  return (status, ← bodyOf? answer)

end SupportDesk.Http
