import QuerySwarm.Http.Message
import QuerySwarm.Url.Address

/-!
# HTTP on the wire

A request is written as a line, its headers, an empty line and its body; a connection serves one
request only. A response is read off the bytes that have arrived. They may be too few to tell, they
may be the beginning of no response, or there is one. Its body ends after so many bytes, after an
empty chunk, or where the connection ends.

Main statements: once bytes amount to something, those that come after them do not change it
(`HttpResponse.stable_read`), a response that is there stays there when the connection is closed
(`HttpResponse.readClosed?_of_read`), and a body whose length is told is exactly so many bytes
(`Wire.body_counted_append`).
-/

namespace QuerySwarm

/-! ### Arrivals -/

/-- What the bytes that have arrived amount to, and what is left of them. -/
inductive Arrival (α : Type) where
  | short
  | broken
  | whole (value : α) (rest : Bytes)
  deriving DecidableEq

namespace Arrival

variable {α β : Type}

def followedBy (more : Bytes) : Arrival α → Arrival α
  | short => short
  | broken => broken
  | whole value rest => whole value (rest ++ more)

def andThen (a : Arrival α) (f : α → Bytes → Arrival β) : Arrival β :=
  match a with
  | short => short
  | broken => broken
  | whole value rest => f value rest

/-- What was found, or that there is nothing to be found. -/
def ofOption (value? : Option α) (rest : Bytes) : Arrival α :=
  match value? with
  | none => broken
  | some value => whole value rest

theorem exists_of_andThen {a : Arrival α} {f : α → Bytes → Arrival β} {value : β} {rest : Bytes}
    (h : a.andThen f = whole value rest) : ∃ v r, a = whole v r ∧ f v r = whole value rest := by
  cases a with
  | short => cases h
  | broken => cases h
  | whole v r => exact ⟨v, r, rfl, h⟩

/-- A reader that is not misled by bytes that are still on their way. -/
def Stable (read : Bytes → Arrival α) : Prop :=
  ∀ bytes more, read bytes = short ∨ read (bytes ++ more) = (read bytes).followedBy more

/-- A reader that takes something off the front. -/
def Shrinks (read : Bytes → Arrival α) : Prop :=
  ∀ bytes value rest, read bytes = whole value rest → rest.length < bytes.length

theorem stable_whole (value : α) : Stable (whole value) := fun _ _ => .inr rfl

theorem stable_ofOption (value? : Option α) : Stable (ofOption value?) := by
  intro bytes more
  right
  cases value? <;> rfl

theorem stable_andThen {read : Bytes → Arrival α} {f : α → Bytes → Arrival β} (hread : Stable read)
    (hf : ∀ value, Stable (f value)) : Stable fun bytes => (read bytes).andThen f := by
  intro bytes more
  dsimp only
  rcases hread bytes more with h | h
  · left
    rw [h]
    rfl
  · rw [h]
    cases read bytes with
    | short => exact .inl rfl
    | broken => exact .inr rfl
    | whole value rest => exact hf value rest more

/-- Read again and again, up to something that is the last; what comes before it is told apart. -/
def upTo (isLast : α → Bool) {read : Bytes → Arrival α} (shrinks : Shrinks read) (bytes : Bytes) :
    Arrival (List α × α) :=
  match _h : read bytes with
  | .short => .short
  | .broken => .broken
  | .whole value rest =>
    if isLast value then .whole ([], value) rest
    else
      (upTo isLast shrinks rest).andThen fun found rest =>
        .whole (value :: found.1, found.2) rest
termination_by bytes.length
decreasing_by exact shrinks _ _ _ _h

theorem upTo_eq (isLast : α → Bool) {read : Bytes → Arrival α} (shrinks : Shrinks read)
    (bytes : Bytes) :
    upTo isLast shrinks bytes = (read bytes).andThen fun value rest =>
      if isLast value then whole ([], value) rest
      else (upTo isLast shrinks rest).andThen fun found rest =>
        whole (value :: found.1, found.2) rest := by
  rw [upTo]
  split
  · next h =>
    rw [h]
    rfl
  · next h =>
    rw [h]
    rfl
  · next h =>
    rw [h]
    rfl

theorem shrinks_upTo (isLast : α → Bool) {read : Bytes → Arrival α} (shrinks : Shrinks read) :
    Shrinks (upTo isLast shrinks) := by
  intro bytes found rest h
  induction hn : bytes.length using Nat.strongRecOn generalizing bytes found with
  | ind n ih =>
    subst hn
    rw [upTo_eq] at h
    obtain ⟨value, left, hread, h⟩ := exists_of_andThen h
    have hlt := shrinks _ _ _ hread
    split at h
    · cases h
      exact hlt
    · obtain ⟨found', left', hfound, h⟩ := exists_of_andThen h
      cases h
      exact Nat.lt_trans (ih _ hlt _ _ hfound rfl) hlt

theorem stable_upTo (isLast : α → Bool) {read : Bytes → Arrival α} (shrinks : Shrinks read)
    (hread : Stable read) : Stable (upTo isLast shrinks) := by
  intro bytes more
  induction hn : bytes.length using Nat.strongRecOn generalizing bytes with
  | ind n ih =>
    subst hn
    rw [upTo_eq isLast shrinks bytes, upTo_eq isLast shrinks (bytes ++ more)]
    rcases hread bytes more with h | h
    · left
      rw [h]
      rfl
    · rw [h]
      cases hvalue : read bytes with
      | short => exact .inl rfl
      | broken => exact .inr rfl
      | whole value rest =>
        simp only [followedBy, andThen]
        by_cases hlast : isLast value = true
        · right
          simp [hlast]
        · simp only [hlast]
          rcases ih _ (shrinks _ _ _ hvalue) rest rfl with hrest | hrest
          · left
            rw [hrest]
            rfl
          · rw [hrest]
            cases upTo isLast shrinks rest with
            | short => exact .inl rfl
            | broken => exact .inr rfl
            | whole found left => exact .inr rfl

theorem shrinks_andThen_whole {read : Bytes → Arrival α} (shrinks : Shrinks read) (f : α → β) :
    Shrinks fun bytes => (read bytes).andThen fun value rest => whole (f value) rest := by
  intro bytes value rest h
  obtain ⟨v, r, hread, h⟩ := exists_of_andThen h
  cases h
  exact shrinks _ _ _ hread

end Arrival

namespace Wire

open Arrival

/-! ### Lines -/

/-- The line at the front, without the mark at its end. -/
def line : Bytes → Arrival Bytes
  | [] => .short
  | b :: bytes =>
    if b = 10 then .whole [] bytes
    else
      (line bytes).andThen fun l rest => .whole (if b = 13 ∧ l = [] then [] else b :: l) rest

theorem shrinks_line : Shrinks line := by
  intro bytes l rest h
  induction bytes generalizing l with
  | nil => cases h
  | cons b bytes ih =>
    unfold line at h
    split at h
    · cases h
      exact Nat.lt_succ_self _
    · obtain ⟨l', left, hline, h⟩ := exists_of_andThen h
      cases h
      exact Nat.lt_succ_of_lt (ih _ hline)

theorem stable_line : Stable line := by
  intro bytes more
  induction bytes with
  | nil => exact .inl rfl
  | cons b bytes ih =>
    rw [List.cons_append]
    unfold line
    by_cases hb : b = 10
    · right
      simp [hb, followedBy]
    · simp only [hb, if_false]
      rcases ih with h | h
      · left
        rw [h]
        rfl
      · rw [h]
        cases line bytes with
        | short => exact .inl rfl
        | broken => exact .inr rfl
        | whole l rest => exact .inr rfl

def lines (bytes : Bytes) : Arrival (List Bytes) :=
  (upTo List.isEmpty shrinks_line bytes).andThen fun found rest => .whole found.1 rest

theorem shrinks_lines : Shrinks lines := shrinks_andThen_whole (shrinks_upTo _ shrinks_line) _

theorem stable_lines : Stable lines :=
  stable_andThen (stable_upTo _ shrinks_line stable_line) fun _ => stable_whole _

/-! ### Bodies -/

def exactly (n : Nat) (bytes : Bytes) : Arrival Bytes :=
  if n ≤ bytes.length then .whole (bytes.take n) (bytes.drop n) else .short

theorem stable_exactly (n : Nat) : Stable (exactly n) := by
  intro bytes more
  by_cases h : n ≤ bytes.length
  · right
    simp [exactly, followedBy, h, Nat.le_trans h (Nat.le_add_right _ _),
      List.take_append_of_le_length h, List.drop_append_of_le_length h]
  · left
    simp [exactly, h]

def isBlank (b : UInt8) : Bool := b == 32 || b == 9

def trimmed (bytes : Bytes) : Bytes :=
  ((bytes.dropWhile isBlank).reverse.dropWhile isBlank).reverse

/-- The number that digits in a base stand for. -/
def number? (base : Nat) (digits : Bytes) : Option Nat :=
  if digits = [] then none
  else (Url.digitsIn? base (Utf8.decodeLossy digits)).map (Url.valueIn base)

/-- The length that is told at the beginning of a chunk. -/
def chunkLength? (l : Bytes) : Option Nat := number? 16 (trimmed (l.takeWhile (· ≠ 59)))

/-- A chunk; after the empty one come further headers, which do not matter. -/
def chunk (bytes : Bytes) : Arrival Bytes :=
  (line bytes).andThen fun l rest =>
    (ofOption (chunkLength? l) rest).andThen fun n rest =>
      if n = 0 then (lines rest).andThen fun _ rest => .whole [] rest
      else
        (exactly n rest).andThen fun data rest =>
          (line rest).andThen fun _ rest => .whole data rest

theorem shrinks_chunk : Shrinks chunk := by
  intro bytes data rest h
  obtain ⟨l, left, hline, hchunk⟩ := exists_of_andThen h
  refine Nat.lt_of_le_of_lt ?_ (shrinks_line _ _ _ hline)
  obtain ⟨n, left', hlength, hdata⟩ := exists_of_andThen hchunk
  have hleft : left' = left := by
    unfold ofOption at hlength
    split at hlength
    · cases hlength
    · cases hlength
      rfl
  rw [hleft] at hdata
  split at hdata
  · obtain ⟨_, _, hlines, hend⟩ := exists_of_andThen hdata
    cases hend
    exact Nat.le_of_lt (shrinks_lines _ _ _ hlines)
  · obtain ⟨_, _, hexact, hrest⟩ := exists_of_andThen hdata
    obtain ⟨_, _, hmark, hend⟩ := exists_of_andThen hrest
    cases hend
    refine Nat.le_trans (Nat.le_of_lt (shrinks_line _ _ _ hmark)) ?_
    unfold exactly at hexact
    split at hexact
    · cases hexact
      simp
    · cases hexact

theorem stable_chunk : Stable chunk := by
  refine stable_andThen stable_line fun l => ?_
  refine stable_andThen (stable_ofOption _) fun n => ?_
  by_cases hn : n = 0
  · simp only [hn, if_true]
    exact stable_andThen stable_lines fun _ => stable_whole _
  · simp only [hn, if_false]
    exact stable_andThen (stable_exactly n) fun _ =>
      stable_andThen stable_line fun _ => stable_whole _

/-- How the end of a body is told. -/
inductive Framing where
  | counted (length : Nat)
  | chunked
  | untilClosed
  deriving DecidableEq, Repr

/-- A body whose end is told before the connection ends. -/
def body : Framing → Bytes → Arrival Bytes
  | .counted n, bytes => exactly n bytes
  | .chunked, bytes =>
    (upTo List.isEmpty shrinks_chunk bytes).andThen fun found rest => .whole found.1.flatten rest
  | .untilClosed, _ => .short

theorem stable_body (f : Framing) : Stable (body f) := by
  cases f with
  | counted n => exact stable_exactly n
  | chunked =>
    exact stable_andThen (stable_upTo _ shrinks_chunk stable_chunk) fun _ => stable_whole _
  | untilClosed => exact fun _ _ => .inl rfl

/-- A body whose length is told is exactly so many bytes. -/
theorem body_counted_append (data rest : Bytes) :
    body (.counted data.length) (data ++ rest) = whole data rest := by
  simp [body, exactly]

/-! ### Heads -/

/-- The beginning of a response. -/
structure Head where
  status : Nat
  headers : List (String × Bytes)
  framing : Framing

/-- The status in the first line of a response. -/
def status? (l : Bytes) : Option Nat :=
  match l.splitOn 32 with
  | version :: code :: _ =>
    if (bytesOf "HTTP/1.").isPrefixOf version && code.length == 3 then number? 10 code else none
  | _ => none

def header? (l : Bytes) : Option (String × Bytes) :=
  match l.dropWhile (· ≠ 58) with
  | [] => none
  | _ :: value =>
    some ((String.ofList (Utf8.decodeLossy (l.takeWhile (· ≠ 58)))).toLower, trimmed value)

def valueOf? (headers : List (String × Bytes)) (name : String) : Option Bytes :=
  (headers.find? fun h => h.1 = name).map Prod.snd

/-- How the end of a body is told by a status and headers. -/
def framing? (status : Nat) (headers : List (String × Bytes)) : Option Framing :=
  if status = 204 ∨ status = 304 then some (.counted 0)
  else
    match valueOf? headers "transfer-encoding", valueOf? headers "content-length" with
    | some coding, _ =>
      some (if (String.ofList (Utf8.decodeLossy coding)).toLower = "chunked" then .chunked
        else .untilClosed)
    | none, some length => (number? 10 length).map .counted
    | none, none => some .untilClosed

/-- The beginning of a response in its lines. -/
def head? : List Bytes → Option Head
  | [] => none
  | first :: rest =>
    match status? first, rest.mapM header? with
    | some status, some headers => (framing? status headers).map (Head.mk status headers)
    | _, _ => none

/-- Whether lines announce that the response is still to come. -/
def isInterim (ls : List Bytes) : Bool :=
  match ls.head?.bind status? with
  | some status => decide (status < 200)
  | none => false

/-- The beginning of the response, after those that announce it. -/
def head (bytes : Bytes) : Arrival Head :=
  (upTo (fun ls => !isInterim ls) shrinks_lines bytes).andThen fun found => ofOption (head? found.2)

theorem stable_head : Stable head :=
  stable_andThen (stable_upTo _ shrinks_lines stable_lines) fun _ => stable_ofOption _

/-- The response with a beginning and a body. -/
def Head.response (h : Head) (body : Bytes) : HttpResponse := ⟨h.status, h.headers, body, true⟩

/-- The response whose body is what came before the connection ended. -/
def Head.closed (h : Head) (bytes : Bytes) : HttpResponse :=
  ⟨h.status, h.headers, bytes, h.framing == .untilClosed⟩

end Wire

/-! ### Responses -/

namespace HttpResponse

open Arrival

/-- The response in the bytes that have arrived, while the connection is open. -/
def read (bytes : Bytes) : Arrival HttpResponse :=
  (Wire.head bytes).andThen fun h rest =>
    (Wire.body h.framing rest).andThen fun body rest => .whole (h.response body) rest

/-- The response in all the bytes that arrived before the connection was closed, if there is one.
It is not whole if there should have been more of its body. -/
def readClosed? (bytes : Bytes) : Option HttpResponse :=
  match Wire.head bytes with
  | .whole h rest =>
    match Wire.body h.framing rest with
    | .whole body _ => some (h.response body)
    | _ => some (h.closed rest)
  | _ => none

theorem stable_read : Stable read :=
  stable_andThen Wire.stable_head fun h =>
    stable_andThen (Wire.stable_body h.framing) fun _ => stable_whole _

/-- A response that is there before the connection is closed is there afterwards. -/
theorem readClosed?_of_read {bytes rest : Bytes} {r : HttpResponse}
    (h : read bytes = whole r rest) :
    readClosed? bytes = some r := by
  obtain ⟨head, left, hhead, hrest⟩ := exists_of_andThen h
  obtain ⟨body, left', hbody, hend⟩ := exists_of_andThen hrest
  cases hend
  simp [readClosed?, hhead, hbody]

end HttpResponse

/-! ### Requests -/

namespace HttpRequest

def lineEnd : String := "\r\n"

def headerLine (name value : String) : String := name ++ ": " ++ value ++ lineEnd

/-- The host of a URL, with its port unless it is the usual one. -/
def hostText (u : Url) : String :=
  String.ofList ((u.host.map Url.Host.chars).getD []) ++
    (match u.port with
     | some port => ":" ++ natText port
     | none => "")

def head (r : HttpRequest) : String :=
  r.method.name ++ " " ++ r.target ++ " HTTP/1.1" ++ lineEnd ++
    headerLine "host" (hostText r.url) ++ headerLine "accept" "*/*" ++
    headerLine "connection" "close" ++
    (if r.method = .get then "" else headerLine "content-length" (natText r.body.length)) ++
    String.join (r.headers.map fun h => headerLine h.1 h.2) ++ lineEnd

def wire (r : HttpRequest) : Bytes := bytesOf r.head ++ r.body

end HttpRequest

end QuerySwarm
