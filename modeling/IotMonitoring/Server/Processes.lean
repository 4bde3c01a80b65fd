import IotMonitoring.Shared.Ownership

/-!
# The server process

`main`, the two accept loops, the handlers they start and the call of the auth
service, as far as descriptors, blocks of memory and threads go. Where the code
branches on data both branches are open here, so every execution of the server
is a run of this pool.
-/

namespace IotMonitoring.Process

open Ownership
set_option autoImplicit false

inductive Handle where
  | descriptor (n : Nat)
  /-- A `SensorClientInfo` or an `HttpClientInfo`. -/
  | block (n : Nat)
  /-- A list made by `getaddrinfo`. -/
  | addresses (n : Nat)
deriving DecidableEq

inductive Server where
  | sensors | http
deriving DecidableEq

inductive Role where
  | main
  | server (k : Server)
  | handler (k : Server)
deriving DecidableEq

/-- Where a thread is, with the handles in its variables. -/
inductive Control where
  -- `main`, behind the start of the logger
  | launchSensors
  | launchHttp (sensorThread : Nat)
  | joinSensors (sensorThread httpThread : Nat)
  | joinHttp (httpThread : Nat)
  /-- `state_destroy` and `logger_close`, when both threads have ended or one cannot be created. -/
  | cleanUp (failed : Option Server)
  -- `sensor_server_start` and `http_server_start`
  | createSocket (k : Server)
  | bindSocket (k : Server) (server : Handle)
  | listenSocket (k : Server) (server : Handle)
  | closeServer (k : Server) (server : Handle)
  | acceptClient (k : Server) (server : Handle)
  | allocateInfo (k : Server) (server client : Handle)
  | closeUnserved (k : Server) (server client : Handle)
  | fillInfo (k : Server) (server client info : Handle)
  | createThread (k : Server) (server client info : Handle)
  | closeUnstarted (k : Server) (server client info : Handle)
  | freeUnstarted (k : Server) (server info : Handle)
  -- `handle_sensor_connection`
  | logConnected (client info : Handle)
  | recvLine (client info : Handle)
  | sendResponse (client info : Handle)
  | logSensor (client info : Handle)
  | logDisconnected (client info : Handle)
  | closeSensor (client info : Handle)
  | logFinished (info : Handle)
  -- `handle_http_request`
  | recvRequest (client info : Handle)
  | recvHeader (client info : Handle)
  | routeRequest (client info : Handle)
  | sendReply (client info : Handle)
  | logHttp (client info : Handle)
  | closeHttp (client info : Handle)
  -- `auth_check_user`, called for `client`
  | resolveHost (client info : Handle)
  | readAddress (client info list : Handle)
  | createAuth (client info list : Handle)
  | passAddress (client info list auth : Handle)
  | connectAuth (client info list auth : Handle)
  | closeRefused (client info list auth : Handle)
  | freeFailed (client info list : Handle)
  | freeConnected (client info list auth : Handle)
  | sendAuth (client info auth : Handle)
  | recvAuth (client info auth : Handle)
  | closeAuth (client info auth : Handle)
  -- the end of a handler, and of any thread
  | freeInfo (k : Server) (info : Handle)
  | ended (role : Role)
deriving DecidableEq

open Control

/-- The first point of a handler. -/
def handle (client info : Handle) : Server → Control
  | .sensors => logConnected client info
  | .http => recvRequest client info

/-- What each point of the code asks for; a call of the system that succeeds answers `true`. -/
def code : Control → Request Handle Control
  | launchSensors => .spawn (createSocket .sensors) fun thread =>
    match thread with
    | some thread => launchHttp thread
    | none => cleanUp (some .sensors)
  | launchHttp sensorThread => .spawn (createSocket .http) fun thread =>
    match thread with
    | some thread => joinSensors sensorThread thread
    | none => cleanUp (some .http)
  | joinSensors sensorThread httpThread => .join sensorThread (joinHttp httpThread)
  | joinHttp httpThread => .join httpThread (cleanUp none)
  | cleanUp _ => .choose fun _ => ended .main
  | createSocket k => .acquire .descriptor fun fd =>
    match fd with
    | some server => bindSocket k server
    | none => ended (.server k)
  | bindSocket k server => .use server fun ok =>
    if ok then listenSocket k server else closeServer k server
  | listenSocket k server => .use server fun ok =>
    if ok then acceptClient k server else closeServer k server
  | closeServer k server => .release server (ended (.server k))
  | acceptClient k server => .acquire .descriptor fun fd =>
    match fd with
    | some client => allocateInfo k server client
    | none => acceptClient k server
  | allocateInfo k server client => .acquire .block fun block =>
    match block with
    | some info => fillInfo k server client info
    | none => closeUnserved k server client
  | closeUnserved k server client => .release client (acceptClient k server)
  | fillInfo k server client info => .use info fun _ => createThread k server client info
  | createThread k server client info => .spawn (handle client info k) fun thread =>
    match thread with
    | some _ => acceptClient k server
    | none => closeUnstarted k server client info
  | closeUnstarted k server client info => .release client (freeUnstarted k server info)
  | freeUnstarted k server info => .release info (acceptClient k server)
  -- the address of the client is read where it was stored, in the block
  | logConnected client info => .use info fun _ => recvLine client info
  | recvLine client info => .use client fun ok =>
    if ok then sendResponse client info else logDisconnected client info
  | sendResponse client info => .use client fun _ => logSensor client info
  | logSensor client info => .use info fun more =>
    if more then recvLine client info else closeSensor client info
  | logDisconnected client info => .use info fun _ => closeSensor client info
  | closeSensor client info => .release client (logFinished info)
  | logFinished info => .use info fun _ => freeInfo .sensors info
  | recvRequest client info => .use client fun ok =>
    if ok then recvHeader client info else closeHttp client info
  | recvHeader client info => .use client fun more =>
    if more then recvHeader client info else routeRequest client info
  | routeRequest client info => .choose fun login =>
    if login then resolveHost client info else sendReply client info
  | sendReply client info => .use client fun more =>
    if more then sendReply client info else logHttp client info
  | logHttp client info => .use info fun _ => closeHttp client info
  | closeHttp client info => .release client (freeInfo .http info)
  | resolveHost client info => .acquire .addresses fun found =>
    match found with
    | some list => readAddress client info list
    | none => sendReply client info
  | readAddress client info list => .use list fun _ => createAuth client info list
  | createAuth client info list => .acquire .descriptor fun fd =>
    match fd with
    | some auth => passAddress client info list auth
    | none => freeFailed client info list
  | passAddress client info list auth => .use list fun _ => connectAuth client info list auth
  | connectAuth client info list auth => .use auth fun ok =>
    if ok then freeConnected client info list auth else closeRefused client info list auth
  | closeRefused client info list auth => .release auth (freeFailed client info list)
  | freeFailed client info list => .release list (sendReply client info)
  | freeConnected client info list auth => .release list (sendAuth client info auth)
  | sendAuth client info auth => .use auth fun ok =>
    if ok then recvAuth client info auth else closeAuth client info auth
  | recvAuth client info auth => .use auth fun more =>
    if more then recvAuth client info auth else closeAuth client info auth
  | closeAuth client info auth => .release auth (sendReply client info)
  | freeInfo k info => .release info (ended (.handler k))
  | ended _ => .stop

abbrev Pool := Ownership.Pool Handle Control

/-- A run of the process. -/
def run (moves : List Move) : Option Pool := Runs.run (Pool.step code) (Pool.init launchSensors) moves

/-! ## What a thread holds -/

/-- The handles in a thread's variables that it has not given away. -/
def owns : Control → Multiset Handle
  | bindSocket _ server | listenSocket _ server | closeServer _ server | acceptClient _ server =>
    ↑[server]
  | allocateInfo _ server client | closeUnserved _ server client => ↑[client, server]
  | fillInfo _ server client info | createThread _ server client info
  | closeUnstarted _ server client info => ↑[info, client, server]
  | freeUnstarted _ server info => ↑[info, server]
  | logConnected client info | recvLine client info | sendResponse client info
  | logSensor client info | logDisconnected client info | closeSensor client info
  | recvRequest client info | recvHeader client info | routeRequest client info
  | sendReply client info | logHttp client info | closeHttp client info
  | resolveHost client info => ↑[info, client]
  | logFinished info | freeInfo _ info => ↑[info]
  | readAddress client info list | createAuth client info list | freeFailed client info list =>
    ↑[list, info, client]
  | passAddress client info list auth | connectAuth client info list auth
  | closeRefused client info list auth | freeConnected client info list auth =>
    ↑[auth, list, info, client]
  | sendAuth client info auth | recvAuth client info auth | closeAuth client info auth =>
    ↑[auth, info, client]
  | _ => 0

/-- Every point of the code keeps the account: it touches what it holds, hands a new handler the
descriptor and the block of its client, and ends with nothing. -/
theorem code_keeps (l : Control) : (code l).Keeps owns (owns l) := by
  have hswap : ∀ (a b : Handle) (l : List Handle), (↑(a :: b :: l) : Multiset Handle) = b ::ₘ ↑(a :: l) :=
    fun a b l => Multiset.coe_eq_coe.mpr (List.Perm.swap b a l)
  have hhead : ∀ (a : Handle) (l : List Handle), a ∈ (↑(a :: l) : Multiset Handle) :=
    fun a l => Multiset.mem_coe.mpr List.mem_cons_self
  have hnext : ∀ (a b : Handle) (l : List Handle), b ∈ (↑(a :: b :: l) : Multiset Handle) :=
    fun a b l => Multiset.mem_coe.mpr (List.mem_cons_of_mem a List.mem_cons_self)
  cases l with
  | ended role => rfl
  | launchSensors | launchHttp sensorThread => exact ⟨rfl, fun _ => rfl⟩
  | joinSensors sensorThread httpThread | joinHttp httpThread => rfl
  | cleanUp failed => exact fun _ => rfl
  | routeRequest client info => exact fun login => by cases login <;> rfl
  -- a new handle joins the others
  | createSocket k | acceptClient k server | allocateInfo k server client | resolveHost client info
  | createAuth client info list => exact ⟨rfl, fun _ => rfl⟩
  -- the handler gets the descriptor and the block, or they stay here
  | createThread k server client info =>
    refine ⟨rfl, fun _ => ?_⟩
    cases k <;> rfl
  -- a handle is used
  | bindSocket k server | listenSocket k server => exact ⟨hhead server [], fun ok => by cases ok <;> rfl⟩
  | fillInfo k server client info => exact ⟨hhead info _, fun _ => rfl⟩
  | logConnected client info | logSensor client info | logDisconnected client info
  | logFinished info | logHttp client info => exact ⟨hhead info _, fun more => by cases more <;> rfl⟩
  | recvLine client info | sendResponse client info | recvRequest client info
  | recvHeader client info | sendReply client info =>
    exact ⟨hnext info client _, fun more => by cases more <;> rfl⟩
  | readAddress client info list => exact ⟨hhead list _, fun _ => rfl⟩
  | passAddress client info list auth => exact ⟨hnext auth list _, fun _ => rfl⟩
  | connectAuth client info list auth | sendAuth client info auth | recvAuth client info auth =>
    exact ⟨hhead auth _, fun ok => by cases ok <;> rfl⟩
  -- a handle is given back, the newest or the one before it
  | closeServer k server | closeUnserved k server client | freeUnstarted k server info
  | freeInfo k info | closeRefused client info list auth | freeFailed client info list
  | closeAuth client info auth => rfl
  | closeUnstarted k server client info => exact hswap info client [server]
  | closeSensor client info | closeHttp client info => exact hswap info client []
  | freeConnected client info list auth => exact hswap auth list [info, client]

/-- In every state of every run: what is open is what the threads hold, everything by one thread
once; a thread only touches what is open and held by no other; and once no thread is busy with a
client, nothing is open but the sockets of the servers. -/
theorem handles_accounted {moves : List Move} {p : Pool} (hrun : run moves = some p) :
    p.opened.Nodup ∧ p.opened = total owns p.threads ∧
      (∀ (i : Nat) l a, p.threads[i]? = some l → (code l).handle? = some a → a ∈ p.opened ∧
        ∀ (j : Nat) l', p.threads[j]? = some l' → j ≠ i → a ∉ owns l') ∧
      ((∀ l ∈ p.threads, owns l = 0 ∨ ∃ k server, l = acceptClient k server) →
        ∀ a ∈ p.opened, ∃ k, acceptClient k a ∈ p.threads) := by
  have hheld : Held owns p := held_run code_keeps rfl hrun
  refine ⟨hheld.once, hheld.balanced, ?_, ?_⟩
  · intro i l a hl ha
    have hown := mem_owns_of_handle code_keeps ha
    exact ⟨hheld.open hl hown, fun j l' hl' hne => hheld.apart hl hl' hne hown⟩
  · intro hidle a ha
    rw [hheld.balanced, mem_total] at ha
    obtain ⟨l, hl, ha⟩ := ha
    rcases hidle l hl with hnone | ⟨k, server, rfl⟩
    · rw [hnone] at ha
      exact absurd ha (Multiset.notMem_zero a)
    · obtain rfl := List.mem_singleton.mp (Multiset.mem_coe.mp ha)
      exact ⟨k, hl⟩

/-- A browser comes and goes while the sensor server is not yet started. -/
def visit : List Move :=
  [⟨0, true, none⟩, ⟨0, true, none⟩, ⟨2, true, some 3⟩, ⟨2, true, none⟩, ⟨2, true, none⟩,
    ⟨2, true, some 4⟩, ⟨2, true, some 0⟩, ⟨2, true, none⟩, ⟨2, true, none⟩, ⟨3, false, none⟩,
    ⟨3, true, none⟩, ⟨3, true, none⟩]

theorem handles_accounted_visit : ∃ p : Pool, run visit = some p ∧
    ∀ a ∈ p.opened, ∃ k, acceptClient k a ∈ p.threads := by
  obtain ⟨p, hrun, hthreads⟩ : ∃ p : Pool, run visit = some p ∧ p.threads =
    [joinSensors 1 2, createSocket .sensors, acceptClient .http (.descriptor 3),
      ended (.handler .http)] := ⟨_, rfl, rfl⟩
  refine ⟨p, hrun, (handles_accounted hrun).2.2.2 ?_⟩
  rw [hthreads]
  intro l hl
  simp only [List.mem_cons, List.not_mem_nil, or_false] at hl
  rcases hl with rfl | rfl | rfl | rfl
  · exact Or.inl rfl
  · exact Or.inl rfl
  · exact Or.inr ⟨_, _, rfl⟩
  · exact Or.inl rfl

/-! ## Start and end -/

namespace Control

def role : Control → Role
  | launchSensors | launchHttp _ | joinSensors _ _ | joinHttp _ | cleanUp _ => .main
  | createSocket k | bindSocket k _ | listenSocket k _ | closeServer k _ | acceptClient k _
  | allocateInfo k _ _ | closeUnserved k _ _ | fillInfo k _ _ _ | createThread k _ _ _
  | closeUnstarted k _ _ _ | freeUnstarted k _ _ => .server k
  | logConnected _ _ | recvLine _ _ | sendResponse _ _ | logSensor _ _ | logDisconnected _ _
  | closeSensor _ _ | logFinished _ => .handler .sensors
  | recvRequest _ _ | recvHeader _ _ | routeRequest _ _ | sendReply _ _ | logHttp _ _
  | closeHttp _ _ | resolveHost _ _ | readAddress _ _ _ | createAuth _ _ _ | passAddress _ _ _ _
  | connectAuth _ _ _ _ | closeRefused _ _ _ _ | freeFailed _ _ _ | freeConnected _ _ _ _
  | sendAuth _ _ _ | recvAuth _ _ _ | closeAuth _ _ _ => .handler .http
  | freeInfo k _ => .handler k
  | ended role => role

/-- In the accept loop, which has no end. -/
def accepting : Control → Bool
  | acceptClient _ _ | allocateInfo _ _ _ | closeUnserved _ _ _ | fillInfo _ _ _ _
  | createThread _ _ _ _ | closeUnstarted _ _ _ _ | freeUnstarted _ _ _ => true
  | _ => false

end Control

/-- A thread keeps its role, and stays in the accept loop. -/
theorem code_leads (l : Control) :
    (code l).Leads fun l' => l'.role = l.role ∧ (l.accepting = true → l'.accepting = true) := by
  cases l with
  | ended role => trivial
  | launchSensors | launchHttp sensorThread | createSocket k | resolveHost client info
  | createAuth client info list =>
    intro answer
    cases answer <;> exact ⟨rfl, nofun⟩
  | acceptClient k server | allocateInfo k server client | createThread k server client info =>
    intro answer
    cases answer <;> exact ⟨rfl, fun _ => rfl⟩
  | fillInfo k server client info => exact fun _ => ⟨rfl, fun _ => rfl⟩
  | closeUnserved k server client | closeUnstarted k server client info
  | freeUnstarted k server info => exact ⟨rfl, fun _ => rfl⟩
  | joinSensors sensorThread httpThread | joinHttp httpThread | closeServer k server
  | closeSensor client info | closeHttp client info | closeRefused client info list auth
  | freeFailed client info list | freeConnected client info list auth
  | closeAuth client info auth | freeInfo k info => exact ⟨rfl, nofun⟩
  | cleanUp failed | logConnected client info | sendResponse client info
  | logDisconnected client info | logFinished info | logHttp client info
  | readAddress client info list | passAddress client info list auth => exact fun _ => ⟨rfl, nofun⟩
  | bindSocket k server | listenSocket k server | recvLine client info | logSensor client info
  | recvRequest client info | recvHeader client info | routeRequest client info
  | sendReply client info | connectAuth client info list auth | sendAuth client info auth
  | recvAuth client info auth =>
    intro ok
    cases ok <;> exact ⟨rfl, nofun⟩

/-- Threads are created by `main` at the start, and by the accept loops. -/
theorem code_spawns {l child : Control} {next : Option Nat → Control}
    (h : code l = .spawn child next) :
    (l = launchSensors ∧ child = createSocket .sensors) ∨
      (∃ sensorThread, l = launchHttp sensorThread ∧ child = createSocket .http) ∨
      ∃ k, l.role = .server k ∧ l.accepting = true ∧ child.role = .handler k := by
  cases l with
  | launchSensors =>
    cases h
    exact Or.inl ⟨rfl, rfl⟩
  | launchHttp sensorThread =>
    cases h
    exact Or.inr (Or.inl ⟨sensorThread, rfl, rfl⟩)
  | createThread k server client info =>
    cases h
    refine Or.inr (Or.inr ⟨k, rfl, rfl, ?_⟩)
    cases k <;> rfl
  | _ => cases h

/-- A thread of this role, and where it is. -/
def RoleAt (threads : List Control) (i : Nat) (role : Role) : Prop :=
  ∃ l, threads[i]? = some l ∧ l.role = role

/-- The threads of this server have ended, if there are any. -/
def Over (threads : List Control) (k : Server) : Prop :=
  ∀ (i : Nat) l, threads[i]? = some l → l.role = .server k → l = ended (.server k)

def Absent (threads : List Control) (k : Server) : Prop := ∀ i, ¬ RoleAt threads i (.server k)

/-- What `main` knows of the two server threads. -/
def MainOk (threads : List Control) : Control → Prop
  | launchSensors | cleanUp (some .sensors) => Absent threads .sensors ∧ Absent threads .http
  | launchHttp sensorThread => RoleAt threads sensorThread (.server .sensors) ∧ Absent threads .http
  | cleanUp (some .http) => Absent threads .http
  | joinSensors sensorThread httpThread =>
    RoleAt threads sensorThread (.server .sensors) ∧ RoleAt threads httpThread (.server .http)
  | joinHttp httpThread => Over threads .sensors ∧ RoleAt threads httpThread (.server .http)
  | cleanUp none => Over threads .sensors ∧ Over threads .http
  | _ => True

/-- One thread a server and one `main`; a handler has been started by an accept loop that still
runs. -/
structure Launched (threads : List Control) : Prop where
  single : ∀ k i j, RoleAt threads i (.server k) → RoleAt threads j (.server k) → i = j
  only : ∀ i, RoleAt threads i .main ↔ i = 0
  parented : ∀ k i, RoleAt threads i (.handler k) →
    ∃ (j : Nat) (l : Control), threads[j]? = some l ∧ l.role = .server k ∧ l.accepting = true

theorem ended_of_stops {l : Control} (h : (code l).stops = true) : l = ended l.role := by
  cases l with
  | ended role => rfl
  | _ => cases h

theorem Absent.over {threads : List Control} {k : Server} (h : Absent threads k) : Over threads k :=
  fun i l hl hrole => absurd ⟨l, hl, hrole⟩ (h i)

/-- A server whose thread has ended is over. -/
theorem over_of_stopped {p : Pool} {k : Server} {i : Nat} (h : Launched p.threads)
    (hi : RoleAt p.threads i (.server k)) (hstopped : p.stopped code i = true) :
    Over p.threads k := by
  intro j l hl hrole
  obtain rfl := h.single k i j hi ⟨l, hl, hrole⟩
  rw [Pool.stopped, hl] at hstopped
  rw [← hrole]
  exact ended_of_stops hstopped

/-- What `main` knows stays so while its servers do. -/
theorem MainOk.later {threads threads' : List Control} {x : Control} (h : MainOk threads x)
    (habsent : ∀ k, Absent threads k → Absent threads' k)
    (hover : ∀ k, Over threads k → Over threads' k)
    (hat : ∀ k j, RoleAt threads j (.server k) → RoleAt threads' j (.server k)) :
    MainOk threads' x := by
  cases x with
  | launchSensors => exact ⟨habsent _ h.1, habsent _ h.2⟩
  | launchHttp sensorThread => exact ⟨hat _ _ h.1, habsent _ h.2⟩
  | joinSensors sensorThread httpThread => exact ⟨hat _ _ h.1, hat _ _ h.2⟩
  | joinHttp httpThread => exact ⟨hover _ h.1, hat _ _ h.2⟩
  | cleanUp failed =>
    cases failed with
    | none => exact ⟨hover _ h.1, hover _ h.2⟩
    | some k =>
      cases k with
      | sensors => exact ⟨habsent _ h.1, habsent _ h.2⟩
      | http => exact habsent _ h
  | _ => trivial

section
variable {threads : List Control} {i : Nat} {l l' : Control} (hl : threads[i]? = some l)
variable (hrole : l'.role = l.role)
include hl hrole

theorem roleAt_set {j : Nat} {role : Role} :
    RoleAt (threads.set i l') j role ↔ RoleAt threads j role := by
  have hlt := (List.getElem?_eq_some_iff.mp hl).1
  by_cases hij : i = j
  · subst hij
    constructor
    · rintro ⟨x, hx, hr⟩
      rw [List.getElem?_set_self hlt, Option.some.injEq] at hx
      exact ⟨l, hl, by rw [← hrole, hx, hr]⟩
    · rintro ⟨x, hx, hr⟩
      obtain rfl := Option.some.inj (hl.symm.trans hx)
      exact ⟨l', List.getElem?_set_self hlt, hrole.trans hr⟩
  · rw [RoleAt, List.getElem?_set_ne hij]
    rfl

/-- One thread moves on in its role. -/
theorem Launched.set (h : Launched threads) (haccepting : l.accepting = true → l'.accepting = true) :
    Launched (threads.set i l') where
  single := by
    intro k i' j hi hj
    exact h.single k i' j ((roleAt_set hl hrole).mp hi) ((roleAt_set hl hrole).mp hj)
  only := fun j => (roleAt_set hl hrole).trans (h.only j)
  parented := by
    intro k j hj
    obtain ⟨a, x, hx, hr, hacc⟩ := h.parented k j ((roleAt_set hl hrole).mp hj)
    by_cases hia : i = a
    · subst hia
      obtain rfl := Option.some.inj (hl.symm.trans hx)
      exact ⟨i, l', List.getElem?_set_self (List.getElem?_eq_some_iff.mp hl).1, hrole.trans hr,
        haccepting hacc⟩
    · exact ⟨a, x, by rw [List.getElem?_set_ne hia, hx], hr, hacc⟩

/-- A server that is over stays so: its thread does not move. -/
theorem Over.set {k : Server} (h : Over threads k) (hstops : (code l).stops = false) :
    Over (threads.set i l') k := by
  intro j x hx hr
  by_cases hij : i = j
  · subst hij
    rw [List.getElem?_set_self (List.getElem?_eq_some_iff.mp hl).1, Option.some.injEq] at hx
    subst hx
    rw [h i l hl (hrole.symm.trans hr)] at hstops
    cases hstops
  · rw [List.getElem?_set_ne hij] at hx
    exact h j x hx hr

theorem MainOk.set {x : Control} (h : MainOk threads x) (hstops : (code l).stops = false) :
    MainOk (threads.set i l') x :=
  h.later (fun _ hk j hj => hk j ((roleAt_set hl hrole).mp hj))
    (fun _ hk => hk.set hl hrole hstops) (fun _ _ hj => (roleAt_set hl hrole).mpr hj)

end

/-! ### Threads that are created -/

section
variable {threads : List Control} {child : Control}

theorem roleAt_append {j : Nat} {role : Role} : RoleAt (threads ++ [child]) j role ↔
    RoleAt threads j role ∨ (j = threads.length ∧ child.role = role) := by
  constructor
  · rintro ⟨x, hx, hr⟩
    rcases Nat.lt_trichotomy j threads.length with hlt | rfl | hgt
    · rw [List.getElem?_append_left hlt] at hx
      exact Or.inl ⟨x, hx, hr⟩
    · rw [List.getElem?_concat_length, Option.some.injEq] at hx
      exact Or.inr ⟨rfl, by rw [hx, hr]⟩
    · rw [List.getElem?_eq_none (by rw [List.length_append, List.length_singleton]; omega)] at hx
      cases hx
  · rintro (⟨x, hx, hr⟩ | ⟨rfl, hr⟩)
    · exact ⟨x, by rw [List.getElem?_append_left (List.getElem?_eq_some_iff.mp hx).1, hx], hr⟩
    · exact ⟨child, List.getElem?_concat_length, hr⟩

theorem getElem?_append_some {j : Nat} {l : Control} (h : threads[j]? = some l) :
    (threads ++ [child])[j]? = some l := by
  rw [List.getElem?_append_left (List.getElem?_eq_some_iff.mp h).1, h]

/-- A handler more, from an accept loop. -/
theorem Launched.handler (h : Launched threads) {k : Server} (hchild : child.role = .handler k)
    {i : Nat} {l : Control} (hl : threads[i]? = some l) (hrole : l.role = .server k)
    (hacc : l.accepting = true) : Launched (threads ++ [child]) where
  single := by
    intro k' i' j hi hj
    rcases roleAt_append.mp hi with hi | ⟨-, hi⟩
    · rcases roleAt_append.mp hj with hj | ⟨-, hj⟩
      · exact h.single k' i' j hi hj
      · rw [hchild] at hj
        cases hj
    · rw [hchild] at hi
      cases hi
  only := by
    intro j
    rw [roleAt_append, h.only j, hchild]
    simp only [reduceCtorEq, and_false, or_false]
  parented := by
    intro k' j hj
    rcases roleAt_append.mp hj with hj | ⟨-, hj⟩
    · obtain ⟨a, x, hx, hr⟩ := h.parented k' j hj
      exact ⟨a, x, getElem?_append_some hx, hr⟩
    · rw [hchild] at hj
      cases hj
      exact ⟨i, l, getElem?_append_some hl, hrole, hacc⟩

/-- A server more, the only one of its kind. -/
theorem Launched.server (h : Launched threads) {k : Server} (hchild : child.role = .server k)
    (habsent : Absent threads k) : Launched (threads ++ [child]) where
  single := by
    intro k' i j hi hj
    rcases roleAt_append.mp hi with hbefore | ⟨hi, hnew⟩
    · rcases roleAt_append.mp hj with hbefore' | ⟨-, hnew⟩
      · exact h.single k' i j hbefore hbefore'
      · rw [hchild] at hnew
        cases hnew
        exact absurd hbefore (habsent i)
    · rcases roleAt_append.mp hj with hbefore' | ⟨hj, -⟩
      · rw [hchild] at hnew
        cases hnew
        exact absurd hbefore' (habsent j)
      · rw [hi, hj]
  only := by
    intro j
    rw [roleAt_append, h.only j, hchild]
    simp only [reduceCtorEq, and_false, or_false]
  parented := by
    intro k' j hj
    rcases roleAt_append.mp hj with hj | ⟨-, hj⟩
    · obtain ⟨a, x, hx, hr⟩ := h.parented k' j hj
      exact ⟨a, x, getElem?_append_some hx, hr⟩
    · rw [hchild] at hj
      cases hj

/-- `main` has nothing to do with a handler. -/
theorem MainOk.handler {x : Control} (h : MainOk threads x) {k : Server}
    (hchild : child.role = .handler k) : MainOk (threads ++ [child]) x := by
  refine h.later ?_ ?_ fun _ _ hj => roleAt_append.mpr (Or.inl hj)
  · intro k' hk j hj
    rcases roleAt_append.mp hj with hj | ⟨-, hj⟩
    · exact hk j hj
    · rw [hchild] at hj
      cases hj
  · intro k' hk j l hl hr
    rcases roleAt_append.mp ⟨l, hl, hr⟩ with ⟨x, hx, -⟩ | ⟨-, hj⟩
    · obtain rfl := Option.some.inj ((getElem?_append_some hx).symm.trans hl)
      exact hk j x hx hr
    · rw [hchild] at hj
      cases hj

end

/-! ### Runs -/

/-- The invariant of the process. -/
structure ProcessOk (p : Pool) : Prop where
  launched : Launched p.threads
  main : ∃ l, p.threads[0]? = some l ∧ MainOk p.threads l

theorem processOk_init : ProcessOk (Pool.init launchSensors) where
  launched := by
    have hat : ∀ {i role}, RoleAt [launchSensors] i role → i = 0 ∧ role = .main := by
      rintro i role ⟨l, hl, hr⟩
      cases i with
      | zero =>
        cases hl
        exact ⟨rfl, hr.symm⟩
      | succ i => cases hl
    refine ⟨?_, ?_, ?_⟩
    · intro k i j hi hj
      rw [(hat hi).1, (hat hj).1]
    · intro i
      refine ⟨fun hi => (hat hi).1, ?_⟩
      rintro rfl
      exact ⟨launchSensors, rfl, rfl⟩
    · intro k i hi
      cases (hat hi).2
  main := by
    have habsent : ∀ k, Absent [launchSensors] k := by
      rintro k i ⟨l, hl, hr⟩
      cases i with
      | zero =>
        cases hl
        cases hr
      | succ i => cases hl
    exact ⟨launchSensors, rfl, habsent _, habsent _⟩

theorem not_accepting {l : Control} (h : l.role = .main) : l.accepting = false := by
  cases l with
  | launchSensors | launchHttp sensorThread | joinSensors sensorThread httpThread
  | joinHttp httpThread | cleanUp failed | ended role => rfl
  | _ => cases h

section
variable {p : Pool} {l l' : Control} {opened : Multiset Handle} (h : ProcessOk p)
variable (hl : p.threads[0]? = some l)
include h hl

theorem ProcessOk.role_main : l.role = .main := by
  obtain ⟨x, hx, hr⟩ := (h.launched.only 0).mpr rfl
  rwa [Option.some.inj (hl.symm.trans hx)]

/-- `main` moves on alone. -/
theorem ProcessOk.next (hrole : l'.role = .main) (hstops : (code l).stops = false)
    (hok : MainOk p.threads l') : ProcessOk ⟨opened, p.threads.set 0 l'⟩ where
  launched := by
    refine h.launched.set hl (hrole.trans (h.role_main hl).symm) fun hacc => ?_
    rw [not_accepting (h.role_main hl)] at hacc
    cases hacc
  main := ⟨l', List.getElem?_set_self (List.getElem?_eq_some_iff.mp hl).1,
    hok.set hl (hrole.trans (h.role_main hl).symm) hstops⟩

end

/-- `main` creates the thread of a server. -/
theorem ProcessOk.create {p : Pool} {l l' : Control} (h : ProcessOk p) (hl : p.threads[0]? = some l)
    (hrole : l'.role = .main) (hstops : (code l).stops = false) {k : Server}
    (habsent : Absent p.threads k) (hok : MainOk (p.threads ++ [createSocket k]) l') :
    ProcessOk ⟨p.opened, p.threads.set 0 l' ++ [createSocket k]⟩ := by
  have hlt := (List.getElem?_eq_some_iff.mp hl).1
  have hl' : (p.threads ++ [createSocket k])[0]? = some l := getElem?_append_some hl
  have hlaunched : Launched (p.threads ++ [createSocket k]) := h.launched.server rfl habsent
  rw [← List.set_append_left 0 l' hlt]
  have hsame := hrole.trans (h.role_main hl).symm
  refine ⟨hlaunched.set hl' hsame fun hacc => ?_, l',
    List.getElem?_set_self (List.getElem?_eq_some_iff.mp hl').1, hok.set hl' hsame hstops⟩
  rw [not_accepting (h.role_main hl)] at hacc
  cases hacc

/-- A step of `main`. -/
theorem processOk_main {p p' : Pool} {m : Move} {l : Control} (h : ProcessOk p)
    (hthread : m.thread = 0) (hl : p.threads[0]? = some l) (hok : MainOk p.threads l)
    (hstep : Pool.Step code p m l p') : ProcessOk p' := by
  have hmain := h.role_main hl
  -- a thread more, for one server, leaves the other absent
  have hother : ∀ {k k'}, k ≠ k' → Absent p.threads k' → Absent (p.threads ++ [createSocket k]) k' := by
    intro k k' hne habsent i hi
    rcases roleAt_append.mp hi with hi | ⟨-, hi⟩
    · exact habsent i hi
    · exact hne (Role.server.inj hi)
  have hnew : ∀ k, RoleAt (p.threads ++ [createSocket k]) p.threads.length (.server k) :=
    fun k => roleAt_append.mpr (Or.inr ⟨rfl, rfl⟩)
  cases l with
  | launchSensors =>
    cases hstep with
    | spawned hreq =>
      cases hreq
      rw [hthread]
      exact h.create hl rfl rfl hok.1 ⟨hnew _, hother nofun hok.2⟩
    | unspawned hreq =>
      cases hreq
      rw [hthread]
      exact h.next hl rfl rfl hok
    | choose hreq | refused hreq | acquired hreq _ | use hreq | release hreq | join hreq _ => cases hreq
  | launchHttp sensorThread =>
    cases hstep with
    | spawned hreq =>
      cases hreq
      rw [hthread]
      exact h.create hl rfl rfl hok.2 ⟨roleAt_append.mpr (Or.inl hok.1), hnew _⟩
    | unspawned hreq =>
      cases hreq
      rw [hthread]
      exact h.next hl rfl rfl hok.2
    | choose hreq | refused hreq | acquired hreq _ | use hreq | release hreq | join hreq _ => cases hreq
  | joinSensors sensorThread httpThread =>
    cases hstep with
    | join hreq hstopped =>
      cases hreq
      rw [hthread]
      exact h.next hl rfl rfl ⟨over_of_stopped h.launched hok.1 hstopped, hok.2⟩
    | choose hreq | refused hreq | acquired hreq _ | use hreq | release hreq | spawned hreq
    | unspawned hreq => cases hreq
  | joinHttp httpThread =>
    cases hstep with
    | join hreq hstopped =>
      cases hreq
      rw [hthread]
      exact h.next hl rfl rfl ⟨hok.1, over_of_stopped h.launched hok.2 hstopped⟩
    | choose hreq | refused hreq | acquired hreq _ | use hreq | release hreq | spawned hreq
    | unspawned hreq => cases hreq
  | cleanUp failed =>
    cases hstep with
    | choose hreq =>
      cases hreq
      rw [hthread]
      exact h.next hl rfl rfl trivial
    | refused hreq | acquired hreq _ | use hreq | release hreq | spawned hreq | unspawned hreq
    | join hreq _ => cases hreq
  | ended role =>
    cases hstep with
    | choose hreq | refused hreq | acquired hreq _ | use hreq | release hreq | spawned hreq
    | unspawned hreq | join hreq _ => cases hreq
  | _ => cases hmain

theorem processOk_step {p p' : Pool} {m : Move} (h : ProcessOk p)
    (hstep : Pool.step code p m = some p') : ProcessOk p' := by
  obtain ⟨l₀, hl₀, hok⟩ := h.main
  by_cases hthread : m.thread = 0
  · obtain ⟨l, hl, hstep⟩ := Pool.step_cases hstep
    rw [hthread] at hl
    obtain rfl := Option.some.inj (hl₀.symm.trans hl)
    exact processOk_main h hthread hl₀ hok hstep
  · obtain ⟨l, l', hl, ⟨hrole, hacc⟩, hstops, hmoved⟩ := Pool.step_threads code_leads hstep
    have hfirst : (p.threads.set m.thread l')[0]? = some l₀ := by
      rw [List.getElem?_set_ne hthread, hl₀]
    have hset := h.launched.set hl hrole hacc
    have hokset := hok.set hl hrole hstops
    rcases hmoved with hmoved | ⟨child, next, hspawn, -, hmoved⟩
    · exact ⟨hmoved ▸ hset, hmoved ▸ ⟨l₀, hfirst, hokset⟩⟩
    · -- only an accept loop creates threads besides `main`
      have hmain : l.role ≠ .main := fun hr => hthread ((h.launched.only m.thread).mp ⟨l, hl, hr⟩)
      rcases code_spawns hspawn with ⟨rfl, -⟩ | ⟨_, rfl, -⟩ | ⟨k, hserver, haccepting, hchild⟩
      · exact absurd rfl hmain
      · exact absurd rfl hmain
      · have hlater : (p.threads.set m.thread l')[m.thread]? = some l' :=
          List.getElem?_set_self (List.getElem?_eq_some_iff.mp hl).1
        exact ⟨hmoved ▸ hset.handler hchild hlater (hrole.trans hserver) (hacc haccepting),
          hmoved ▸ ⟨l₀, getElem?_append_some hfirst, hokset.handler hchild⟩⟩

theorem processOk_run {p : Pool} {moves : List Move} (hrun : run moves = some p) : ProcessOk p :=
  Runs.invariant_run (fun h hstep => processOk_step h hstep) processOk_init hrun

/-- With both servers over, nothing runs besides `main`: no handler has ever been started. -/
theorem ended_of_over {p : Pool} (h : Launched p.threads) (hover : ∀ k, Over p.threads k) {i : Nat}
    {l : Control} (hl : p.threads[i]? = some l) (hi : i ≠ 0) : ∃ k, l = ended (.server k) := by
  cases hrole : l.role with
  | main => exact absurd ((h.only i).mp ⟨l, hl, hrole⟩) hi
  | server k => exact ⟨k, hover k i l hl hrole⟩
  | handler k =>
    obtain ⟨j, x, hx, hr, hacc⟩ := h.parented k i ⟨l, hl, hrole⟩
    rw [hover k j x hx hr] at hacc
    cases hacc

/-- `main` destroys the state and closes the log, `failed` saying why. -/
def CleansUp (failed : Option Server) (p : Pool) : Prop :=
  (∃ moves, run moves = some p) ∧ p.threads[0]? = some (cleanUp failed)

theorem CleansUp.alone {failed : Option Server} {p : Pool} (h : CleansUp failed p)
    (hfailed : failed ≠ some .http) {i : Nat} {l : Control} (hl : p.threads[i]? = some l)
    (hi : i ≠ 0) : ∃ k, l = ended (.server k) := by
  obtain ⟨⟨moves, hrun⟩, hmain⟩ := h
  have hok := processOk_run hrun
  obtain ⟨x, hx, hknown⟩ := hok.main
  obtain rfl := Option.some.inj (hx.symm.trans hmain)
  have hover : ∀ k, Over p.threads k := by
    intro k
    cases failed with
    | none =>
      cases k with
      | sensors => exact hknown.1
      | http => exact hknown.2
    | some server =>
      cases server with
      | http => exact absurd rfl hfailed
      | sensors =>
        cases k with
        | sensors => exact hknown.1.over
        | http => exact hknown.2.over
  exact ended_of_over hok.launched hover hl hi

/-- A sensor connects before `main` fails to create the thread of the HTTP server. -/
def lateFailure : List Move :=
  [⟨0, true, none⟩, ⟨1, true, some 3⟩, ⟨1, true, none⟩, ⟨1, true, none⟩, ⟨1, true, some 4⟩,
    ⟨1, true, some 0⟩, ⟨1, true, none⟩, ⟨1, true, none⟩, ⟨0, false, none⟩]

/-- In every run, when `main` destroys the state and closes the log all other threads have ended
and nothing is open, except when the thread of the HTTP server could not be created: only then can
another thread still run, and it can. -/
theorem cleanUp_alone_iff (failed : Option Server) :
    (∀ p, CleansUp failed p → p.opened = 0 ∧
      ∀ (i : Nat) l, p.threads[i]? = some l → i ≠ 0 → ∃ k, l = ended (.server k)) ↔
      failed ≠ some .http := by
  constructor
  · rintro halone rfl
    obtain ⟨p, hrun, hmain, hthread⟩ : ∃ p : Pool, run lateFailure = some p ∧
      p.threads[0]? = some (cleanUp (some .http)) ∧
      p.threads[2]? = some (logConnected (.descriptor 4) (.block 0)) := ⟨_, rfl, rfl, rfl⟩
    obtain ⟨k, hended⟩ := (halone p ⟨⟨_, hrun⟩, hmain⟩).2 2 _ hthread (by decide)
    cases hended
  · intro hfailed p hp
    refine ⟨?_, fun i l hl hi => hp.alone hfailed hl hi⟩
    obtain ⟨⟨moves, hrun⟩, hmain⟩ := hp
    have hheld : Held owns p := held_run code_keeps rfl hrun
    rw [hheld.balanced]
    apply Multiset.eq_zero_of_forall_notMem
    intro a ha
    obtain ⟨l, hl, ha⟩ := mem_total.mp ha
    obtain ⟨i, hi⟩ := List.mem_iff_getElem?.mp hl
    by_cases hzero : i = 0
    · subst hzero
      obtain rfl := Option.some.inj (hmain.symm.trans hi)
      exact absurd ha (Multiset.notMem_zero a)
    · obtain ⟨k, rfl⟩ := CleansUp.alone ⟨⟨moves, hrun⟩, hmain⟩ hfailed hi hzero
      exact absurd ha (Multiset.notMem_zero a)

end IotMonitoring.Process
