import Ksmppd.Lib.Transition
import Ksmppd.Sessions.UnbindCommand

/-!
# Server — the commands of the HTTP port

One thread answers the requests.  A request that does not carry the configured password is denied;
any other names a command by its URL, whose ending after the last dot only chooses the form of the
answer.
-/

namespace Ksmppd
namespace Http

open Lib
open Sessions (ServerState Label AdminLabel adminStep)

variable {n : Nat} {ρ : Type}

/-! ## Requests and replies -/

inductive ContentType
  | plain
  | xml
  deriving DecidableEq, Repr

structure HttpRequest where
  url : Octstr
  args : List (Octstr × Octstr)
  deriving DecidableEq, Repr

structure HttpReply where
  status : Int
  answer : Octstr
  deriving DecidableEq, Repr

def httpForbidden : Int := 403

/-- `http_cgi_variable`. -/
def httpCgiVariable (args : List (Octstr × Octstr)) (name : String) : Option Octstr :=
  args.lookup (octstrImm name)

def dot : UInt8 := 46

/-- `octstr_rsearch_char(os, c, octstr_len(os) - 1)`. -/
def octstrRsearchChar (os : Octstr) (c : UInt8) : Option Nat :=
  (os.reverse.findIdx? (fun d => d = c)).map (fun i => os.length - 1 - i)

/-- The URL without its extension, and the content type the extension asks for. -/
def splitUrl (url : Octstr) : Octstr × ContentType :=
  match octstrRsearchChar url dot with
  | none => (url, .plain)
  | some pos =>
      (url.take pos, if url.drop pos = octstrImm ".xml" then .xml else .plain)

/-! ## The server -/

/-- `SMPPHTTPServer`; `smpp_http_server_init` panics without a password. -/
structure SmppHttpServer where
  password : Octstr
  password_ne : password ≠ []
  startTime : Nat

/-- What the commands read and change: the sessions, the log level and the routes. -/
structure AdminState (n : Nat) (ρ : Type) where
  server : ServerState n
  logLevel : Int
  routes : ρ

/-- A callback of `smpp_http_server_add_command`; `none` where it has to wait for a lock. -/
abbrev SmppHttpCommand (n : Nat) (ρ : Type) :=
  AdminState n ρ → List (Octstr × Octstr) → ContentType →
    Option (AdminState n ρ × SmppHttpCommandResult)

/-- The server with what its commands call. -/
structure HttpConfig (n : Nat) (ρ : Type) where
  http : SmppHttpServer
  /-- `smpp_routing->reload`, where the routing has one. -/
  reload : Option (ρ → ρ)
  /-- The listing of `esme-status`. -/
  statusText : ServerState n → ContentType → Octstr
  /-- The order in which `dict_keys` lists keys. -/
  dictKeys : List Octstr → List Octstr

def okResult (result : Octstr) : SmppHttpCommandResult := { status := httpOk, result := result }

/-- `smpp_http_command_uptime`. -/
def smppHttpCommandUptime (c : HttpConfig n ρ) : SmppHttpCommand n ρ := fun s _ contentType =>
  let diff := s.server.now - c.http.startTime
  some (s, okResult (match contentType with
    | .plain => octstrImm "Uptime " ++ octstrFormatLong (diff / 3600 / 24 : Nat) ++ octstrImm "d " ++
        octstrFormatLong (diff / 3600 % 24 : Nat) ++ octstrImm "h " ++
        octstrFormatLong (diff / 60 % 60 : Nat) ++ octstrImm "m " ++
        octstrFormatLong (diff % 60 : Nat) ++ octstrImm "s\n"
    | .xml => octstrImm "<uptime>" ++ octstrFormatLong diff ++ octstrImm "</uptime>"))

/-- The level `log-level` asks for; `atoi` of the text. -/
def newLogLevel (level : Option Octstr) : Int :=
  if octstrLen level ≠ 0 then (atol (level.getD [])).bmod (2 ^ 32) else -1

/-- `smpp_http_command_log_level`. -/
def smppHttpCommandLogLevel : SmppHttpCommand n ρ := fun s args contentType =>
  let newLoglevel := newLogLevel (httpCgiVariable args "level")
  if newLoglevel ≥ 0 then
    some ({ s with logLevel := newLoglevel }, okResult (match contentType with
      | .plain => octstrImm "Log level set to " ++ octstrFormatLong newLoglevel ++ octstrImm "\n"
      | .xml => octstrImm "<message>Log level set to " ++ octstrFormatLong newLoglevel ++
          octstrImm "</message>\n"))
  else
    some (s, okResult (match contentType with
      | .plain => octstrImm "Invalid level specified\n"
      | .xml => octstrImm "<message>Invalid level specified</message>\n"))

/-- `smpp_route_rebuild_command`. -/
def smppRouteRebuildCommand (c : HttpConfig n ρ) : SmppHttpCommand n ρ := fun s _ contentType =>
  some ({ s with routes := c.reload.elim s.routes (fun reload => reload s.routes) },
    okResult (match contentType with
      | .plain => octstrImm "Routes updated"
      | .xml => octstrImm "<status>Routes updated</status>"))

/-- `smpp_esme_status_command`, which holds a read lock. -/
def smppEsmeStatusCommand (c : HttpConfig n ρ) : SmppHttpCommand n ρ := fun s _ contentType =>
  if s.server.cleaning then none
  else some (s, okResult (c.statusText s.server contentType))

/-- `smpp_esme_unbind_command`, which holds the write lock. -/
def unbindCommand : SmppHttpCommand n ρ := fun s args contentType =>
  let systemId := httpCgiVariable args "system-id"
  let bindId := httpCgiVariable args "bind-id"
  let plain := decide (contentType = .plain)
  if s.server.cleaning ∨ s.server.binding ≠ [] then none
  else
    some ({ s with server := s.server.unbindCommand systemId bindId plain },
      (smppEsmeUnbindCommand s.server.data systemId bindId plain).1)

/-- `smpp_http_server_add_command`. -/
def smppHttpServerAddCommand (commands : List (Octstr × SmppHttpCommand n ρ)) (key : String)
    (callback : SmppHttpCommand n ρ) : List (Octstr × SmppHttpCommand n ρ) :=
  (octstrImm "/" ++ octstrImm key, callback) :: commands

/-- The commands `smpp_http_server_init`, `smpp_route_init` and `smpp_esme_init` add. -/
def commandsOf (c : HttpConfig n ρ) : List (Octstr × SmppHttpCommand n ρ) :=
  let commands := smppHttpServerAddCommand [] "uptime" (smppHttpCommandUptime c)
  let commands := smppHttpServerAddCommand commands "log-level" smppHttpCommandLogLevel
  let commands := smppHttpServerAddCommand commands "rebuild-routes" (smppRouteRebuildCommand c)
  let commands := smppHttpServerAddCommand commands "esme-status" (smppEsmeStatusCommand c)
  smppHttpServerAddCommand commands "esme-unbind" unbindCommand

/-- What is answered where there is no such command. -/
def unknownCommand (c : HttpConfig n ρ) (url : Octstr) : HttpReply where
  status := httpNotFound
  answer := octstrImm "Command '" ++ url ++ octstrImm "' not found, available commands are: \n\n" ++
    (c.dictKeys ((commandsOf c).map Prod.fst)).flatMap (fun key => key ++ octstrImm "\n")

/-- The body of the loop of `smpp_http_server_request_handler`. -/
def requestHandler (c : HttpConfig n ρ) (s : AdminState n ρ) (r : HttpRequest) :
    Option (AdminState n ρ × HttpReply) :=
  let password := httpCgiVariable r.args "password"
  if octstrLen password = 0 ∨ password ≠ some c.http.password then
    some (s, { status := httpForbidden, answer := octstrImm "Denied" })
  else
    let (url, contentType) := splitUrl r.url
    match (commandsOf c).lookup url with
    | none => some (s, unknownCommand c url)
    | some callback =>
        (callback s r.args contentType).map (fun x =>
          (x.1, { status := x.2.status, answer := x.2.result }))

/-! ## URLs -/

/-- The URL is that of a command, with or without an extension. -/
def calledAs (name : String) (url : Octstr) : Option ContentType :=
  let path := octstrImm "/" ++ octstrImm name
  let extension := url.drop (path.length + 1)
  if url = path then some .plain
  else if path ++ [dot] <+: url ∧ dot ∉ extension then
    some (if extension = octstrImm "xml" then .xml else .plain)
  else none

theorem octstrRsearchChar_of_not_mem {os : Octstr} {c : UInt8} (h : c ∉ os) :
    octstrRsearchChar os c = none := by
  unfold octstrRsearchChar
  have hnone : os.reverse.findIdx? (fun d => d = c) = none := by
    rw [List.findIdx?_eq_none_iff]
    intro d hd
    have hne : d ≠ c := fun heq => h (heq ▸ List.mem_reverse.mp hd)
    simpa using hne
  rw [hnone]
  rfl

/-- The last occurrence is the one with none behind it. -/
theorem octstrRsearchChar_append {before behind : Octstr} {c : UInt8} (h : c ∉ behind) :
    octstrRsearchChar (before ++ c :: behind) c = some before.length := by
  unfold octstrRsearchChar
  have hfirst : (before ++ c :: behind).reverse.findIdx? (fun d => d = c) =
      some behind.length := by
    have hnone : behind.reverse.findIdx? (fun d => decide (d = c)) = none := by
      rw [List.findIdx?_eq_none_iff]
      intro d hd
      have hne : d ≠ c := fun heq => h (heq ▸ List.mem_reverse.mp hd)
      simpa using hne
    rw [List.reverse_append, List.reverse_cons, List.append_assoc, List.findIdx?_append, hnone]
    simp [List.findIdx?_cons]
  rw [hfirst]
  simp only [Option.map_some, List.length_append, List.length_cons, Option.some.injEq]
  omega

theorem last_dot {url : Octstr} (h : dot ∈ url) :
    ∃ before behind, url = before ++ dot :: behind ∧ dot ∉ behind := by
  rcases List.eq_append_cons_of_mem (List.mem_reverse.mpr h) with ⟨behind, before, heq, hnone⟩
  refine ⟨before.reverse, behind.reverse, ?_, fun hmem => hnone (List.mem_reverse.mp hmem)⟩
  have hrev := congrArg List.reverse heq
  simpa using hrev

theorem splitUrl_of_not_mem {url : Octstr} (h : dot ∉ url) : splitUrl url = (url, .plain) := by
  simp [splitUrl, octstrRsearchChar_of_not_mem h]

theorem splitUrl_append {path extension : Octstr} (h : dot ∉ extension) :
    splitUrl (path ++ dot :: extension) =
      (path, if extension = octstrImm "xml" then .xml else .plain) := by
  have hxml : (dot :: extension = octstrImm ".xml") = (extension = octstrImm "xml") := by
    have himm : octstrImm ".xml" = dot :: octstrImm "xml" := by decide
    simp [himm]
  simp [splitUrl, octstrRsearchChar_append h, hxml]

/-- Only what follows the last dot is cut off. -/
theorem splitUrl_eq_iff {name : String} (hname : dot ∉ octstrImm "/" ++ octstrImm name)
    {url : Octstr} {contentType : ContentType} :
    splitUrl url = (octstrImm "/" ++ octstrImm name, contentType) ↔
      calledAs name url = some contentType := by
  by_cases hmem : dot ∈ url
  · rcases last_dot hmem with ⟨before, behind, rfl, hbehind⟩
    have hne : before ++ dot :: behind ≠ octstrImm "/" ++ octstrImm name :=
      fun heq => hname (heq ▸ hmem)
    rw [splitUrl_append hbehind]
    unfold calledAs
    dsimp only
    rw [if_neg hne]
    constructor
    · intro heq
      rcases Prod.mk.inj heq with ⟨rfl, rfl⟩
      have hstarts : octstrImm "/" ++ octstrImm name ++ [dot] <+:
          octstrImm "/" ++ octstrImm name ++ dot :: behind := ⟨behind, by simp⟩
      have hdrop : (octstrImm "/" ++ octstrImm name ++ dot :: behind).drop
          ((octstrImm "/" ++ octstrImm name).length + 1) = behind := by
        rw [← List.drop_drop, List.drop_left]
        rfl
      rw [hdrop, if_pos ⟨hstarts, hbehind⟩]
    · intro hcalled
      split at hcalled
      · rename_i hboth
        rcases hboth with ⟨⟨rest, hrest⟩, hfree⟩
        -- both dots are the last one
        have hsplit : octstrImm "/" ++ octstrImm name ++ dot :: rest = before ++ dot :: behind := by
          simpa using hrest
        have hdrop : (octstrImm "/" ++ octstrImm name ++ dot :: rest).drop
            ((octstrImm "/" ++ octstrImm name).length + 1) = rest := by
          rw [← List.drop_drop, List.drop_left]
          rfl
        rw [← hsplit, hdrop] at hfree hcalled
        have hlength : octstrRsearchChar (before ++ dot :: behind) dot = some before.length :=
          octstrRsearchChar_append hbehind
        rw [← hsplit, octstrRsearchChar_append hfree] at hlength
        have hboth := List.append_inj hsplit (Option.some.inj hlength)
        rcases List.cons.inj hboth.2 with ⟨-, rfl⟩
        rw [← hboth.1, Option.some.inj hcalled]
      · cases hcalled
  · rw [splitUrl_of_not_mem hmem]
    unfold calledAs
    dsimp only
    constructor
    · intro heq
      rcases Prod.mk.inj heq with ⟨rfl, rfl⟩
      rw [if_pos rfl]
    · intro hcalled
      split at hcalled
      · rename_i hurl
        rw [hurl, Option.some.inj hcalled]
      · split at hcalled
        · rename_i hboth
          rcases hboth.1 with ⟨rest, rfl⟩
          exact absurd (by simp) hmem
        · cases hcalled

/-! ## What a request does -/

/-- The request carries the configured password. -/
def authorised (c : HttpConfig n ρ) (r : HttpRequest) : Bool :=
  decide (httpCgiVariable r.args "password" = some c.http.password)

def denied : HttpReply := { status := httpForbidden, answer := octstrImm "Denied" }

theorem requestHandler_of_not_authorised {c : HttpConfig n ρ} {r : HttpRequest}
    (h : authorised c r = false) (s : AdminState n ρ) : requestHandler c s r = some (s, denied) := by
  have hne : httpCgiVariable r.args "password" ≠ some c.http.password := by
    simpa [authorised] using h
  unfold requestHandler
  exact if_pos (Or.inr hne)

/-- The configured password is not empty. -/
theorem requestHandler_of_authorised {c : HttpConfig n ρ} {r : HttpRequest}
    (h : authorised c r = true) (s : AdminState n ρ) :
    requestHandler c s r =
      match (commandsOf c).lookup (splitUrl r.url).1 with
      | none => some (s, unknownCommand c (splitUrl r.url).1)
      | some callback =>
          (callback s r.args (splitUrl r.url).2).map (fun x =>
            (x.1, { status := x.2.status, answer := x.2.result })) := by
  have hpassword : httpCgiVariable r.args "password" = some c.http.password := by
    simpa [authorised] using h
  have hlen : octstrLen (some c.http.password) ≠ 0 := by
    simpa [octstrLen] using c.http.password_ne
  unfold requestHandler
  dsimp only
  rw [hpassword, if_neg (by simp [hlen])]

/-- The commands apart from `esme-unbind` leave the sessions alone. -/
def LeavesSessions (callback : SmppHttpCommand n ρ) : Prop :=
  ∀ s args contentType x, callback s args contentType = some x → x.1.server = s.server

theorem lookup_commandsOf {c : HttpConfig n ρ} {path : Octstr} {callback : SmppHttpCommand n ρ}
    (h : (commandsOf c).lookup path = some callback) :
    (path = octstrImm "/" ++ octstrImm "esme-unbind" ∧ callback = unbindCommand) ∨
      (path ≠ octstrImm "/" ++ octstrImm "esme-unbind" ∧ LeavesSessions callback) := by
  simp only [commandsOf, smppHttpServerAddCommand, List.lookup_cons, List.lookup_nil] at h
  by_cases hunbind : path = octstrImm "/" ++ octstrImm "esme-unbind"
  · refine Or.inl ⟨hunbind, ?_⟩
    simpa [hunbind] using h.symm
  refine Or.inr ⟨hunbind, ?_⟩
  have hkey : (path == octstrImm "/" ++ octstrImm "esme-unbind") = false := by simpa using hunbind
  rw [hkey] at h
  dsimp only at h
  intro s args contentType x hx
  split at h
  · -- esme-status
    cases h
    unfold smppEsmeStatusCommand at hx
    split at hx
    · cases hx
    · cases hx
      rfl
  split at h
  · -- rebuild-routes
    cases h
    cases hx
    rfl
  split at h
  · -- log-level
    cases h
    unfold smppHttpCommandLogLevel at hx
    dsimp only at hx
    split at hx
    · cases hx
      rfl
    · cases hx
      rfl
  split at h
  · -- uptime
    cases h
    cases hx
    rfl
  · cases h

/-! ## Runs -/

inductive HttpLabel (n : Nat)
  | server (l : Label n)
  | request (r : HttpRequest)

/-- The state of the server and what has been answered. -/
structure Served (n : Nat) (ρ : Type) where
  state : AdminState n ρ
  replies : List (HttpRequest × HttpReply)

/-- The threads of the server, and the thread that answers the requests. -/
def httpStep (c : HttpConfig n ρ) (s : Served n ρ) : HttpLabel n → Option (Served n ρ)
  | .server l =>
      (Sessions.step s.state.server l).map (fun server =>
        { s with state := { s.state with server := server } })
  | .request r =>
      (requestHandler c s.state r).map (fun x =>
        { state := x.1, replies := s.replies ++ [(r, x.2)] })

/-- What a step is for the sessions. -/
def sessionLabels (c : HttpConfig n ρ) : HttpLabel n → List (AdminLabel n)
  | .server l => [.server l]
  | .request r =>
      if authorised c r then
        (calledAs "esme-unbind" r.url).toList.map (fun contentType =>
          .unbind (httpCgiVariable r.args "system-id") (httpCgiVariable r.args "bind-id")
            (decide (contentType = .plain)))
      else []

theorem not_dot_mem_unbind : dot ∉ octstrImm "/" ++ octstrImm "esme-unbind" := by decide

theorem calledAs_eq_none {url : Octstr}
    (h : (splitUrl url).1 ≠ octstrImm "/" ++ octstrImm "esme-unbind") :
    calledAs "esme-unbind" url = none := by
  cases hcalled : calledAs "esme-unbind" url with
  | none => rfl
  | some contentType =>
      have hsplit := (splitUrl_eq_iff not_dot_mem_unbind).mpr hcalled
      exact absurd (congrArg Prod.fst hsplit) h

/-- A request takes the sessions through the step of its unbind command, if it is one. -/
theorem request_sessions {c : HttpConfig n ρ} {s : AdminState n ρ} {r : HttpRequest}
    {x : AdminState n ρ × HttpReply} (h : requestHandler c s r = some x) :
    Run adminStep anyStep s.server (sessionLabels c (.request r)) x.1.server := by
  cases hauth : authorised c r with
  | false =>
      rw [requestHandler_of_not_authorised hauth] at h
      cases h
      simpa [sessionLabels, hauth] using Run.nil
  | true =>
      rw [requestHandler_of_authorised hauth] at h
      cases hlookup : (commandsOf c).lookup (splitUrl r.url).1 with
      | none =>
          have hne : (splitUrl r.url).1 ≠ octstrImm "/" ++ octstrImm "esme-unbind" := by
            intro heq
            rw [heq] at hlookup
            simp [commandsOf, smppHttpServerAddCommand] at hlookup
          rw [hlookup] at h
          cases h
          simpa [sessionLabels, hauth, calledAs_eq_none hne] using Run.nil
      | some callback =>
          rw [hlookup] at h
          rcases Option.map_eq_some_iff.mp h with ⟨y, hy, rfl⟩
          rcases lookup_commandsOf hlookup with ⟨hpath, rfl⟩ | ⟨hne, hleaves⟩
          · have hcalled : calledAs "esme-unbind" r.url = some (splitUrl r.url).2 :=
              (splitUrl_eq_iff not_dot_mem_unbind).mp (by rw [← hpath])
            unfold unbindCommand at hy
            dsimp only at hy
            split at hy
            · cases hy
            · rename_i hfree
              cases hy
              simp only [sessionLabels, hauth, hcalled, if_true, Option.toList_some,
                List.map_cons, List.map_nil]
              refine Run.single trivial ?_
              exact if_neg hfree
          · have hsame := hleaves _ _ _ _ hy
            simp only [sessionLabels, hauth, calledAs_eq_none hne, if_true, Option.toList_none,
              List.map_nil, hsame]
            exact Run.nil

/-- Whatever requests arrive, and however they interleave with the threads of the server, the
sessions go through the steps of these threads and through one `esme-unbind` for each request that
carries the password and whose URL is `/esme-unbind`, with or without an extension. -/
theorem sessions_follow_commands (c : HttpConfig n ρ) {s t : Served n ρ} {ls : List (HttpLabel n)}
    (hrun : Run (httpStep c) anyStep s ls t) :
    Run adminStep anyStep s.state.server (ls.flatMap (sessionLabels c)) t.state.server := by
  have hstep : ∀ (u : Served n ρ) (w : ServerState n) (l : HttpLabel n) (u' : Served n ρ),
      w = u.state.server → anyStep u l → httpStep c u l = some u' →
      ∃ w', Run adminStep anyStep w (sessionLabels c l) w' ∧ w' = u'.state.server := by
    rintro u w l u' rfl - hl
    cases l with
    | server l =>
        rcases Option.map_eq_some_iff.mp hl with ⟨server, hserver, rfl⟩
        exact ⟨server, Run.single trivial hserver, rfl⟩
    | request r =>
        rcases Option.map_eq_some_iff.mp hl with ⟨x, hx, rfl⟩
        exact ⟨x.1.server, request_sessions hx, rfl⟩
  rcases hrun.simulate_lists (fun u w => w = u.state.server) hstep rfl with ⟨w, hw, rfl⟩
  exact hw

/-! ## Requests without the password -/

/-- The step is not a request that is denied. -/
def admitted (c : HttpConfig n ρ) : HttpLabel n → Bool
  | .server _ => true
  | .request r => authorised c r

/-- Only what was answered to requests with the password. -/
def Served.admitted (c : HttpConfig n ρ) (s : Served n ρ) : Served n ρ :=
  { s with replies := s.replies.filter (fun x => authorised c x.1) }

theorem filter_eq_flatMap {α : Type*} (p : α → Bool) (l : List α) :
    l.filter p = l.flatMap (fun a => if p a then [a] else []) := by
  induction l with
  | nil => rfl
  | cons a l ih => cases hp : p a <;> simp [hp, ih]

/-- A denied request is no step for those who have the password. -/
theorem admitted_step {c : HttpConfig n ρ} {s s' : Served n ρ} {l : HttpLabel n}
    (h : httpStep c s l = some s') :
    Run (httpStep c) anyStep (s.admitted c) (if admitted c l then [l] else []) (s'.admitted c) := by
  cases l with
  | server l =>
      rcases Option.map_eq_some_iff.mp h with ⟨server, hserver, rfl⟩
      refine Run.single trivial ?_
      have hstate : (s.admitted c).state = s.state := rfl
      simp only [httpStep, hstate, hserver, Option.map_some]
      rfl
  | request r =>
      rcases Option.map_eq_some_iff.mp h with ⟨x, hx, rfl⟩
      cases hauth : authorised c r with
      | false =>
          -- nothing has changed, and the answer is not among those that are kept
          rw [requestHandler_of_not_authorised hauth] at hx
          cases hx
          have hsame : Served.admitted c { state := s.state, replies := s.replies ++ [(r, denied)] } =
              s.admitted c := by
            simp [Served.admitted, hauth]
          simpa [admitted, hauth, hsame] using Run.nil
      | true =>
          have hkept : Served.admitted c { state := x.1, replies := s.replies ++ [(r, x.2)] } =
              { state := x.1, replies := (s.admitted c).replies ++ [(r, x.2)] } := by
            simp [Served.admitted, hauth]
          simp only [admitted, hauth, if_true, hkept]
          refine Run.single trivial ?_
          have hstate : (s.admitted c).state = s.state := rfl
          simp only [httpStep, hstate, hx, Option.map_some]

theorem denied_step {c : HttpConfig n ρ} {s s' : Served n ρ} {l : HttpLabel n}
    (h : ∀ x ∈ s.replies, authorised c x.1 = false → x.2 = denied)
    (hstep : httpStep c s l = some s') :
    ∀ x ∈ s'.replies, authorised c x.1 = false → x.2 = denied := by
  cases l with
  | server l =>
      rcases Option.map_eq_some_iff.mp hstep with ⟨server, -, rfl⟩
      exact h
  | request r =>
      rcases Option.map_eq_some_iff.mp hstep with ⟨x, hx, rfl⟩
      intro y hy hauth
      rcases List.mem_append.mp hy with hold | hnew
      · exact h y hold hauth
      · obtain rfl := List.mem_singleton.mp hnew
        rw [requestHandler_of_not_authorised hauth] at hx
        cases hx
        rfl

/-- Requests without the configured password change nothing and learn nothing: they are all answered
alike, and without them the server goes through the same run, with the same answers to all other
requests. -/
theorem denied_requests_invisible (c : HttpConfig n ρ) {s : AdminState n ρ} {t : Served n ρ}
    {ls : List (HttpLabel n)}
    (hrun : Run (httpStep c) anyStep { state := s, replies := [] } ls t) :
    Run (httpStep c) anyStep { state := s, replies := [] } (ls.filter (admitted c)) (t.admitted c) ∧
      ∀ x ∈ t.replies, authorised c x.1 = false → x.2 = denied := by
  refine ⟨?_, ?_⟩
  · have hstep : ∀ (u w : Served n ρ) (l : HttpLabel n) (u' : Served n ρ), w = u.admitted c →
        anyStep u l → httpStep c u l = some u' →
        ∃ w', Run (httpStep c) anyStep w (if admitted c l then [l] else []) w' ∧
          w' = u'.admitted c := by
      rintro u w l u' rfl - hl
      exact ⟨u'.admitted c, admitted_step hl, rfl⟩
    rcases hrun.simulate_lists (fun u w => w = u.admitted c) hstep rfl with ⟨w, hw, rfl⟩
    rw [filter_eq_flatMap]
    exact hw
  · exact hrun.invariant (fun u => ∀ x ∈ u.replies, authorised c x.1 = false → x.2 = denied)
      (fun _ _ _ h _ hstep => denied_step h hstep) (fun _ hx => (List.not_mem_nil hx).elim)

/-! ## A small server -/

def sampleHttp : HttpConfig 0 Nat where
  http := { password := octstrImm "secret", password_ne := by decide, startTime := 0 }
  reload := some Nat.succ
  statusText := fun _ _ => octstrImm "Summary: \n"
  dictKeys := id

def sampleAdmin : Served 0 Nat where
  state := { server := Sessions.sampleServer, logLevel := 1, routes := 0 }
  replies := []

def sampleUnbind (password : String) : HttpRequest where
  url := octstrImm "/esme-unbind.xml"
  args := [(octstrImm "password", octstrImm password), (octstrImm "system-id", octstrImm "test")]

/-- A client binds; one request to unbind it has the wrong password, and one the right one. -/
def sampleRequests : List (HttpLabel 0) :=
  [.server .accept, .server (.receive 0 (.bind (Sessions.sampleBind (octstrImm "test")))),
    .server (.bindCheck 0 false (some { maxBinds := 0 })), .server (.bindFinish 0),
    .request (sampleUnbind "guess"), .request (sampleUnbind "secret")]

theorem sampleRequests_run :
    ∃ t, Run (httpStep sampleHttp) anyStep sampleAdmin sampleRequests t ∧
      t.state.server.outboundQueue.length = 2 := by
  have hexec : (execute (httpStep sampleHttp) anyStep sampleAdmin sampleRequests).any (fun t =>
      t.state.server.outboundQueue.length == 2) = true := by
    decide +kernel
  rcases exists_run_of_execute hexec with ⟨t, hrun, ht⟩
  exact ⟨t, hrun, by simpa using ht⟩

theorem sessions_follow_commands_sample :
    ∃ t : ServerState 0, Run adminStep anyStep Sessions.sampleServer
      (sampleRequests.flatMap (sessionLabels sampleHttp)) t ∧ t.outboundQueue.length = 2 := by
  rcases sampleRequests_run with ⟨t, hrun, hlength⟩
  exact ⟨_, sessions_follow_commands sampleHttp hrun, hlength⟩

theorem denied_requests_invisible_sample :
    ∃ t, Run (httpStep sampleHttp) anyStep sampleAdmin (sampleRequests.filter (admitted sampleHttp))
      t ∧ t.state.server.outboundQueue.length = 2 := by
  rcases sampleRequests_run with ⟨t, hrun, hlength⟩
  exact ⟨_, (denied_requests_invisible sampleHttp hrun).1, hlength⟩

end Http
end Ksmppd
