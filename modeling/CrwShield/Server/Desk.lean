import CrwShield.Base.Runs
import CrwShield.Server.Hitl
import Mathlib.Data.List.Nodup

/-!
# A desk of tickets

What the queue of `src/crates/server/src/handlers.rs:101–380` is for: pages wait as tickets until an
operator solves them, and whoever asks for a ticket is told how it stands. The calls so far tell the
tickets on the desk and how each is marked.
-/

open CrwShield.Base CrwShield.Base.Str CrwShield.Antibot

namespace CrwShield.Server

/-- What a solve notes on a ticket. -/
structure Mark where
  solvedAt : Str
  host : Str
  count : Nat

/-- A page that waits for the operator, or is solved. -/
structure Ticket where
  id : Str
  createdAt : Str
  request : HitlRequest
  mark : Option Mark

namespace Ticket

/-- The value shown for a ticket. -/
def entry (t : Ticket) : Json :=
  let pending := hitlEntry t.id t.createdAt t.request
  match t.mark with
  | none => pending
  | some m => solvedEntry pending m.solvedAt m.host m.count

/-- The ticket with a note of its solve. -/
def marked (t : Ticket) (m : Mark) : Ticket := { t with mark := some m }

/-- The host that a solve of the ticket is for. -/
def hostFor (t : Ticket) (cookies : List HitlCookie) : Option Str :=
  resolvedHost cookies (urlHostStr t.request.url)

end Ticket

/-- The tickets in the order they came in, and the cookies that the fetchers share. -/
structure Desk where
  tickets : List Ticket
  distinct : (tickets.map Ticket.id).Nodup
  jar : CookieJar

namespace Desk

variable (d : Desk)

/-- The ticket with an id. -/
def find (id : Str) : Option Ticket := d.tickets.find? fun t ↦ t.id = id

/-- A new ticket comes in. -/
def enter (t : Ticket) (hfresh : t.id ∉ d.tickets.map Ticket.id) : Desk where
  tickets := d.tickets ++ [t]
  distinct := by
    rw [List.map_append, List.map_singleton, List.nodup_append]
    refine ⟨d.distinct, by simp, fun id hid id' hid' heq ↦ hfresh ?_⟩
    rw [← List.mem_singleton.mp hid', ← heq]
    exact hid
  jar := d.jar

/-- A solve is noted on the ticket with an id. -/
def markTicket (id : Str) (m : Mark) : List Ticket → List Ticket :=
  List.map fun t ↦ if t.id = id then t.marked m else t

theorem map_id_markTicket (id : Str) (m : Mark) (tickets : List Ticket) :
    (markTicket id m tickets).map Ticket.id = tickets.map Ticket.id := by
  rw [markTicket, List.map_map]
  refine List.map_congr_left fun t _ ↦ ?_
  rw [Function.comp_apply]
  split <;> rfl

/-- A solve of another id changes no ticket. -/
theorem markTicket_of_notMem {id : Str} {tickets : List Ticket}
    (h : id ∉ tickets.map Ticket.id) (m : Mark) : markTicket id m tickets = tickets := by
  conv_rhs => rw [← List.map_id tickets]
  refine List.map_congr_left fun t ht ↦ if_neg fun hid ↦ h ?_
  exact hid ▸ List.mem_map_of_mem ht

/-- A ticket is solved, and the jar holds its cookies. -/
def solve (id : Str) (m : Mark) (jar : CookieJar) : Desk where
  tickets := markTicket id m d.tickets
  distinct := by
    rw [map_id_markTicket]
    exact d.distinct
  jar := jar

end Desk

/-- A call of a handler and its answer, or a step of others between the calls. -/
inductive DeskCall
  | enqueue (req : HitlRequest) (answer : Except Str HitlEnqueueResponse)
  | solve (id : Str) (cookies : List HitlCookie) (answer : Except (Nat × Json) Json)
  | result (id : Str) (answer : Except Str Json)
  | elsewhere

/-- The answer to a solve; `handlers.rs:373–379`. -/
def solveAnswer (id host : Str) (cookies : List HitlCookie) (entry : Json) : Json :=
  .ofMembers
    [("success", .bool true), ("hitl_id", .str id), ("host", .str host),
     ("cookies_stored", .num (ofNat cookies.length)), ("entry", entry)]

/-- The steps on files at which an enqueue may fail. -/
def enqueueFailures (path : Str) : List Str :=
  ["serialize entry: ", "open queue file " ++ path ++ ": ", "append to queue file: "]

/-- The steps at which a solve may fail once it has stored the cookies. -/
def solveFailures : List Str :=
  ["serialize entry: ", "write tmp queue file: ", "rename tmp queue file: "]

/-- What a call may do to the desk, whose queue file has the given path. A disk that fails leaves
the tickets as they are; where it fails after the cookies were stored, they stay stored. -/
inductive DeskStep (path : Str) : Desk → DeskCall → Desk → Prop
  | entered {d : Desk} {id createdAt : Str} {req : HitlRequest}
      (hfresh : id ∉ d.tickets.map Ticket.id) :
      DeskStep path d (.enqueue req (.ok (enqueueResponse id createdAt req)))
        (d.enter ⟨id, createdAt, req, none⟩ hfresh)
  | notEntered {d : Desk} {req : HitlRequest} {failure e : Str}
      (hfailure : failure ∈ enqueueFailures path) :
      DeskStep path d (.enqueue req (.error (failure ++ e))) d
  | shown {d : Desk} {id : Str} {t : Ticket} (hfind : d.find id = some t) :
      DeskStep path d (.result id (.ok t.entry)) d
  | unknown {d : Desk} {id : Str} (hfind : d.find id = none) :
      DeskStep path d (.result id (.error ("HITL queue entry " ++ id ++ " not found"))) d
  | unreadable {d : Desk} {id e : Str} :
      DeskStep path d (.result id (.error ("read queue file " ++ path ++ ": " ++ e))) d
  | noCookies {d : Desk} {id : Str} :
      DeskStep path d (.solve id [] (.error (solveError 400 "no cookies provided"))) d
  | notRead {d : Desk} {id e : Str} {cookies : List HitlCookie} (hcookies : cookies ≠ []) :
      DeskStep path d
        (.solve id cookies (.error (solveError 500 ("read queue file " ++ path ++ ": " ++ e)))) d
  | noTicket {d : Desk} {id : Str} {cookies : List HitlCookie} (hcookies : cookies ≠ [])
      (hfind : d.find id = none) :
      DeskStep path d
        (.solve id cookies (.error (solveError 404 ("HITL queue entry " ++ id ++ " not found")))) d
  | noHost {d : Desk} {id : Str} {cookies : List HitlCookie} {t : Ticket} (hcookies : cookies ≠ [])
      (hfind : d.find id = some t) (hhost : t.hostFor cookies = none) :
      DeskStep path d (.solve id cookies (.error (solveError 400
        ("could not resolve host: provide `domain` in the cookie entries or " ++
          "enqueue an entry with a valid URL")))) d
  | stored {d : Desk} {id host failure e : Str} {cookies : List HitlCookie} {t : Ticket}
      {now : Option Nat} (hcookies : cookies ≠ []) (hfind : d.find id = some t)
      (hhost : t.hostFor cookies = some host) (hfailure : failure ∈ solveFailures) :
      DeskStep path d (.solve id cookies (.error (solveError 500 (failure ++ e))))
        { d with jar := solveJar now host cookies d.jar }
  | solved {d : Desk} {id host solvedAt : Str} {cookies : List HitlCookie} {t : Ticket}
      {now : Option Nat} (hcookies : cookies ≠ []) (hfind : d.find id = some t)
      (hhost : t.hostFor cookies = some host) :
      DeskStep path d
        (.solve id cookies (.ok (solveAnswer id host cookies
          (t.marked ⟨solvedAt, host, cookies.length⟩).entry)))
        (d.solve id ⟨solvedAt, host, cookies.length⟩ (solveJar now host cookies d.jar))
  | elsewhere {d : Desk} {jar : CookieJar} : DeskStep path d .elsewhere { d with jar := jar }

/-- The ticket that an acknowledged enqueue has put on the desk. -/
def DeskCall.ticket : DeskCall → Option Ticket
  | .enqueue req (.ok r) => some ⟨r.id, r.createdAt, req, none⟩
  | _ => none

/-- The cookies of an acknowledged solve of an id. -/
def DeskCall.noted (id : Str) : DeskCall → Option (List HitlCookie)
  | .solve id' cookies (.ok _) => if id' = id then some cookies else none
  | _ => none

/-- The last acknowledged solve of an id. -/
def lastSolve (id : Str) (calls : List DeskCall) : Option (List HitlCookie) :=
  (calls.filterMap (DeskCall.noted id)).getLast?

/-- A ticket as it came in. -/
def Ticket.blank (t : Ticket) : Ticket := { t with mark := none }

/-- The calls since a first desk tell the last one: its tickets are those of the first and those of
the acknowledged enqueues, in this order, and a ticket is marked as its last acknowledged solve has
left it. -/
structure Told (d : Desk) (calls : List DeskCall) (d' : Desk) : Prop where
  tickets : d'.tickets.map Ticket.blank =
    d.tickets.map Ticket.blank ++ calls.filterMap DeskCall.ticket
  known : ∀ id cookies, lastSolve id calls = some cookies → id ∈ d'.tickets.map Ticket.id
  solved : ∀ t ∈ d'.tickets, ∀ cookies, lastSolve t.id calls = some cookies →
    ∃ m, t.mark = some m ∧ t.hostFor cookies = some m.host ∧ m.count = cookies.length
  pending : ∀ t ∈ d'.tickets, lastSolve t.id calls = none → t.mark = none ∨ t ∈ d.tickets

section Told

variable {path : Str} {d d' d'' : Desk} {calls : List DeskCall} {e : DeskCall}

theorem lastSolve_concat_none {id : Str} (h : e.noted id = none) :
    lastSolve id (calls ++ [e]) = lastSolve id calls := by
  simp [lastSolve, h]

theorem lastSolve_concat_some {id : Str} {cookies : List HitlCookie}
    (h : e.noted id = some cookies) : lastSolve id (calls ++ [e]) = some cookies := by
  simp [lastSolve, h]

theorem Told.refl (d : Desk) : Told d [] d where
  tickets := by simp
  known id cookies h := absurd h (by simp [lastSolve])
  solved t _ cookies h := absurd h (by simp [lastSolve])
  pending t ht _ := .inr ht

/-- A call that is no acknowledged enqueue or solve leaves the tickets. -/
theorem Told.keep (h : Told d calls d') (htickets : d''.tickets = d'.tickets)
    (hticket : e.ticket = none) (hnoted : ∀ id, e.noted id = none) : Told d (calls ++ [e]) d'' where
  tickets := by simp [htickets, h.tickets, hticket]
  known id cookies hlast := by
    rw [lastSolve_concat_none (hnoted id)] at hlast
    rw [htickets]
    exact h.known id cookies hlast
  solved t ht cookies hlast := by
    rw [lastSolve_concat_none (hnoted _)] at hlast
    exact h.solved t (htickets ▸ ht) cookies hlast
  pending t ht hlast := by
    rw [lastSolve_concat_none (hnoted _)] at hlast
    exact h.pending t (htickets ▸ ht) hlast

/-- An acknowledged enqueue adds its ticket, which no solve has marked. -/
theorem Told.enter (h : Told d calls d') {id createdAt : Str} {req : HitlRequest}
    (hfresh : id ∉ d'.tickets.map Ticket.id) :
    Told d (calls ++ [.enqueue req (.ok (enqueueResponse id createdAt req))])
      (d'.enter ⟨id, createdAt, req, none⟩ hfresh) where
  tickets := by
    rw [Desk.enter, List.map_append, h.tickets, List.filterMap_append, List.append_assoc]
    rfl
  known id' cookies hlast := by
    rw [lastSolve_concat_none rfl] at hlast
    rw [Desk.enter, List.map_append]
    exact List.mem_append_left _ (h.known id' cookies hlast)
  solved t ht cookies hlast := by
    rw [lastSolve_concat_none rfl] at hlast
    rcases List.mem_append.mp ht with ht | ht
    · exact h.solved t ht cookies hlast
    · rw [List.mem_singleton.mp ht] at hlast
      exact absurd (h.known _ _ hlast) hfresh
  pending t ht hlast := by
    rw [lastSolve_concat_none rfl] at hlast
    rcases List.mem_append.mp ht with ht | ht
    · exact h.pending t ht hlast
    · rw [List.mem_singleton.mp ht]
      exact .inl rfl

/-- An acknowledged solve marks its ticket and no other. -/
theorem Told.solve (h : Told d calls d') {id host solvedAt : Str} {cookies : List HitlCookie}
    {t : Ticket} {v : Json} {jar : CookieJar} (hfind : d'.find id = some t)
    (hhost : t.hostFor cookies = some host) :
    Told d (calls ++ [.solve id cookies (.ok v)])
      (d'.solve id ⟨solvedAt, host, cookies.length⟩ jar) := by
  set m : Mark := ⟨solvedAt, host, cookies.length⟩
  have hnoted : DeskCall.noted id (.solve id cookies (.ok v)) = some cookies := if_pos rfl
  have hother : ∀ id', id ≠ id' → DeskCall.noted id' (.solve id cookies (.ok v)) = none :=
    fun id' hne ↦ if_neg hne
  have hid : t.id = id := by simpa using List.find?_some hfind
  have hmem : ∀ t' ∈ (d'.solve id m jar).tickets,
      t'.id = id ∧ (∃ t₀ ∈ d'.tickets, t₀.id = id ∧ t' = t₀.marked m) ∨
        t'.id ≠ id ∧ t' ∈ d'.tickets := by
    intro t' ht'
    obtain ⟨t₀, ht₀, rfl⟩ := List.mem_map.mp ht'
    split
    · next h₀ => exact .inl ⟨h₀, t₀, ht₀, h₀, rfl⟩
    · next h₀ => exact .inr ⟨h₀, ht₀⟩
  constructor
  · have hblank : (d'.solve id m jar).tickets.map Ticket.blank = d'.tickets.map Ticket.blank := by
      show (Desk.markTicket id m d'.tickets).map Ticket.blank = _
      rw [Desk.markTicket, List.map_map]
      refine List.map_congr_left fun t' _ ↦ ?_
      rw [Function.comp_apply]
      split <;> rfl
    rw [hblank, h.tickets, List.filterMap_append]
    exact (congrArg _ (List.append_nil _)).symm
  · intro id' cookies' hlast
    rw [Desk.solve, Desk.map_id_markTicket]
    by_cases hne : id = id'
    · rw [← hne, ← hid]
      exact List.mem_map_of_mem (List.mem_of_find?_eq_some hfind)
    · rw [lastSolve_concat_none (hother id' hne)] at hlast
      exact h.known id' cookies' hlast
  · intro t' ht' cookies' hlast
    rcases hmem t' ht' with ⟨ht'id, t₀, ht₀, h₀, rfl⟩ | ⟨hne, ht'⟩
    · rw [ht'id, lastSolve_concat_some hnoted] at hlast
      obtain rfl := Option.some.inj hlast
      -- the ticket found is the only one with the id
      have hsame : t₀ = t := by
        have hinj := List.inj_on_of_nodup_map d'.distinct
        exact hinj ht₀ (List.mem_of_find?_eq_some hfind) (h₀.trans hid.symm)
      subst hsame
      exact ⟨m, rfl, hhost, rfl⟩
    · rw [lastSolve_concat_none (hother _ (Ne.symm hne))] at hlast
      exact h.solved t' ht' cookies' hlast
  · intro t' ht' hlast
    rcases hmem t' ht' with ⟨ht'id, -⟩ | ⟨hne, ht'⟩
    · rw [ht'id, lastSolve_concat_some hnoted] at hlast
      exact absurd hlast (by simp)
    · rw [lastSolve_concat_none (hother _ (Ne.symm hne))] at hlast
      exact h.pending t' ht' hlast

/-- Every step is told. -/
theorem Told.step (h : Told d calls d') (hstep : DeskStep path d' e d'') :
    Told d (calls ++ [e]) d'' := by
  cases hstep with
  | entered hfresh => exact h.enter hfresh
  | solved _ hfind hhost => exact h.solve hfind hhost
  | notEntered _ | shown _ | unknown _ | unreadable | noCookies | notRead _ | noTicket _ _
  | noHost _ _ _ | stored _ _ _ _ | elsewhere => exact h.keep rfl rfl fun _ ↦ rfl

end Told

end CrwShield.Server
