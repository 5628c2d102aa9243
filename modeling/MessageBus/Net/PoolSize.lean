import MessageBus.Net.ClientPool

set_option autoImplicit false

namespace MessageBus.Net

def CreatePhase.pending (host : DestHost) : CreatePhase -> Int
  | .idle _ => 0
  | .connecting call => if call.host = host then max call.realneedNum 0 else 0
  | .adding call _ | .posting call _ | .storing call _ =>
    if call.host = host then max call.realneedNum 0 + 1 else 0

namespace TcpClientPool

def filed (pool : TcpClientPool) (host : DestHost) : Nat :=
  ((pool.tcpclientPool host).getD []).length

def pending (pool : TcpClientPool) (thread : Nat) (host : DestHost) : Int :=
  (pool.callers thread).pending host

def madeHere (pool : TcpClientPool) : Event -> List DestHost
  | .connect thread (some _) =>
    match pool.callers thread with
    | .connecting call => [call.host]
    | _ => []
  | _ => []

-- The pool with the host each connection was made for, which a closed connection forgets.
structure Observed where
  pool : TcpClientPool
  madeFor : List DestHost

inductive PoolEvent where
  | own (event : Event)
  | removeTcpSock (spTcp : ClientSock)

namespace Observed

def initial : Observed := { pool := TcpClientPool.initial, madeFor := [] }

def step (observed : Observed) : PoolEvent -> Option Observed
  | .own event => (observed.pool.step event).map fun next =>
    { pool := next, madeFor := observed.madeFor ++ observed.pool.madeHere event }
  | .removeTcpSock spTcp =>
    some { observed with pool := observed.pool.removeTcpSock spTcp }

-- A host that has connections has a counter, and one of its own is returned.
def GivesOwn (observed : Observed) : Prop :=
  ∀ host conns, observed.pool.tcpclientPool host = some conns →
    (∃ counter, observed.pool.selectCounter host = some counter) ∧
      (conns ≠ [] → ∃ ref, (observed.pool.getTcpSockByDestHost host).1 = some ref ∧ ref ∈ conns ∧
        observed.madeFor[ref]? = some host)

def KeepsSize (num : Int) (observed : Observed) : Prop :=
  ∀ host conns, observed.pool.tcpclientPool host = some conns → (conns.length : Int) ≤ num

-- The calls that run are all made with the same number.
def sameNum (num : Int) : PoolEvent -> Prop
  | .own (.createTcpSock _ _ asked) => asked = num
  | _ => True

-- A call counts the connections of a host while no other call has any to make for it, or finds
-- enough of them.
def countsAlone (observed : Observed) : PoolEvent -> Prop
  | .own (.createTcpSock _ host num) =>
    num ≤ observed.pool.filed host ∨ ∀ thread, observed.pool.pending thread host = 0
  | _ => True

end Observed

section Moves

variable {pool next : TcpClientPool}

theorem pending_nonneg (pool : TcpClientPool) (thread : Nat) (host : DestHost) :
    0 ≤ pool.pending thread host := by
  unfold pending CreatePhase.pending
  split <;> omega

structure Shrinks (pool next : TcpClientPool) : Prop where
  fewer : ∀ host conns, next.tcpclientPool host = some conns →
    ∃ before, pool.tcpclientPool host = some before ∧ conns.Sublist before
  callers : next.callers = pool.callers
  socks : next.socks.length = pool.socks.length
  counted : ∀ host counter, pool.selectCounter host = some counter →
    ∃ later, next.selectCounter host = some later

inductive Move (pool : TcpClientPool) : Event -> TcpClientPool -> Prop where
  | counts (thread : Nat) (host : DestHost) (num : Int) (returned : Option Bool)
      (idle : pool.callers thread = .idle returned) :
      Move pool (.createTcpSock thread host num)
        (pool.setCaller thread (.connecting { host, realneedNum := num - pool.filed host }))
  -- A call goes on with what it has to make, or gives up.
  | turns (event : Event) (thread : Nat) (phase : CreatePhase) (socks : List ClientSock)
      (makes : pool.madeHere event = []) (sameLength : socks.length = pool.socks.length)
      (less : ∀ host, phase.pending host ≤ pool.pending thread host)
      (holds : ∀ held, phase.newtcp = some held → (pool.callers thread).newtcp = some held) :
      Move pool event { pool.setCaller thread phase with socks }
  | connects (thread : Nat) (call : CreateCall) (fd : Int)
      (connecting : pool.callers thread = .connecting call) (needed : 0 ≤ call.realneedNum - 1) :
      Move pool (.connect thread (some fd))
        { pool.setCaller thread
            (.adding { call with realneedNum := call.realneedNum - 1 } pool.socks.length) with
          socks := pool.socks ++ [.connected fd call.host] }
  | stores (thread : Nat) (call : CreateCall) (newtcp : Nat)
      (storing : pool.callers thread = .storing call newtcp) :
      Move pool (.store thread)
        ((pool.storeNew call.host newtcp).setCaller thread (.connecting call))
  | shrinks (event : Event) (next : TcpClientPool) (makes : pool.madeHere event = [])
      (shrinks : Shrinks pool next) : Move pool event next

theorem removeTcpSock_shrinks (pool : TcpClientPool) (spTcp : ClientSock) :
    Shrinks pool (pool.removeTcpSock spTcp) := by
  obtain ⟨sameSocks, sameCallers⟩ := removeTcpSock_frame pool spTcp
  refine ⟨?_, sameCallers, congrArg List.length sameSocks, ?_⟩
  · intro host conns found
    unfold removeTcpSock at found
    split at found
    · exact ⟨conns, found, .refl _⟩
    next destHost known =>
      split at found
      · exact ⟨conns, found, .refl _⟩
      next before there =>
        by_cases same : host = destHost
        · subst same
          simp only [Function.update_self, Option.some.injEq] at found
          exact ⟨before, there, found ▸ List.filter_sublist⟩
        · simp only [Function.update_of_ne same] at found
          exact ⟨conns, found, .refl _⟩
  · intro host counter found
    unfold removeTcpSock
    split
    · exact ⟨counter, found⟩
    · split <;> exact ⟨counter, found⟩

theorem get_shrinks (pool : TcpClientPool) (host : DestHost) :
    Shrinks pool (pool.getTcpSockByDestHost host).2 := by
  obtain ⟨sameSocks, samePool, sameCallers⟩ := get_frame pool host
  refine ⟨?_, sameCallers, congrArg List.length sameSocks, ?_⟩
  · intro other conns found
    exact ⟨conns, samePool ▸ found, .refl _⟩
  · intro other counter found
    unfold getTcpSockByDestHost
    split
    · exact ⟨counter, found⟩
    · exact ⟨counter, found⟩
    · by_cases same : other = host
      · subst same
        exact ⟨_, Function.update_self ..⟩
      · exact ⟨counter, (Function.update_of_ne same ..).trans found⟩

theorem Move.rests {event : Event} (thread : Nat) (created : Option Bool)
    (makes : pool.madeHere event = []) :
    Move pool event (pool.setCaller thread (.idle created)) := by
  refine .turns event thread _ pool.socks makes rfl (pending_nonneg pool thread) ?_
  intro held holds
  cases holds

theorem step_move {event : Event} (taken : pool.step event = some next) :
    Move pool event next := by
  cases event with
  | createTcpSock thread host num =>
    simp only [step] at taken
    split at taken <;> cases taken
    next returned idle =>
      have counts := Move.counts thread host num returned idle
      unfold filed at counts
      cases found : pool.tcpclientPool host with
      | some allConn =>
        rw [found] at counts
        exact counts
      | none =>
        rw [found, Option.getD_none, List.length_nil, Int.ofNat_zero, Int.sub_zero] at counts
        exact counts
  | finish thread =>
    simp only [step] at taken
    split at taken
    next call connecting =>
      split at taken <;> cases taken
      exact .rests thread _ rfl
    next => cases taken
  | connect thread connected =>
    simp only [step] at taken
    split at taken
    next call fd connecting =>
      split at taken <;> cases taken
      next fresh => exact .connects thread call fd connecting fresh.1
    next call connecting =>
      split at taken <;> cases taken
      exact .rests thread _ rfl
    next => cases taken
  | addTcpSockToLoop thread added =>
    simp only [step] at taken
    split at taken
    next call newtcp adding =>
      split at taken
      next =>
        rw [Option.map_eq_some_iff] at taken
        obtain ⟨sock, there, rfl⟩ := taken
        refine .turns _ thread _ _ rfl List.length_set ?_ ?_
        · intro host
          rw [pending, adding]
          exact le_refl _
        · intro held holds
          rwa [adding]
      next =>
        cases taken
        exact .rests thread _ rfl
    next => cases taken
  | postcb thread posted =>
    simp only [step] at taken
    split at taken
    next call newtcp posting =>
      cases taken
      refine .turns _ thread _ pool.socks rfl rfl ?_ ?_
      · intro host
        split
        · rw [pending, posting]
          exact le_refl _
        · exact pending_nonneg pool thread host
      · intro held holds
        split at holds
        · rwa [posting]
        · cases holds
    next => cases taken
  | store thread =>
    simp only [step] at taken
    split at taken
    next call newtcp storing =>
      cases taken
      exact .stores thread call newtcp storing
    next => cases taken
  | callback ref =>
    simp only [step, Option.bind_eq_some_iff] at taken
    obtain ⟨sock, there, taken⟩ := taken
    split at taken <;> cases taken
    have removed := removeTcpSock_shrinks pool sock
    exact .shrinks _ _ rfl
      ⟨removed.fewer, removed.callers, List.length_set, removed.counted⟩
  | close ref =>
    simp only [step, Option.bind_eq_some_iff] at taken
    obtain ⟨sock, there, taken⟩ := taken
    split at taken <;> cases taken
    exact .shrinks _ _ rfl ⟨fun host conns found => ⟨conns, found, .refl _⟩, rfl, List.length_set,
      fun host counter found => ⟨counter, found⟩⟩
  | getTcpSockByDestHost host =>
    cases taken
    exact .shrinks _ _ rfl (get_shrinks pool host)

end Moves

section Filing

-- Every connection that is filed, or on its way, was made for the host.
structure Filed (observed : Observed) : Prop where
  made : observed.madeFor.length = observed.pool.socks.length
  held : ∀ thread call newtcp, (observed.pool.callers thread).newtcp = some (call, newtcp) →
    observed.madeFor[newtcp]? = some call.host
  pooled : ∀ host conns ref, observed.pool.tcpclientPool host = some conns → ref ∈ conns →
    observed.madeFor[ref]? = some host
  counted : ∀ host conns, observed.pool.tcpclientPool host = some conns →
    ∃ counter, observed.pool.selectCounter host = some counter

variable {observed following : Observed}

theorem filed_initial : Filed .initial := by
  constructor <;> simp [Observed.initial, TcpClientPool.initial, CreatePhase.newtcp]

theorem Filed.shrinks {next : TcpClientPool} (filed : Filed observed)
    (shrinks : Shrinks observed.pool next) : Filed { observed with pool := next } := by
  refine ⟨filed.made.trans shrinks.socks.symm, shrinks.callers ▸ filed.held, ?_, ?_⟩
  · intro host conns ref found member
    obtain ⟨before, there, sub⟩ := shrinks.fewer host conns found
    exact filed.pooled host before ref there (sub.subset member)
  · intro host conns found
    obtain ⟨before, there, _⟩ := shrinks.fewer host conns found
    obtain ⟨counter, counts⟩ := filed.counted host before there
    exact shrinks.counted host counter counts

theorem Filed.setCaller {thread : Nat} {phase : CreatePhase} (filed : Filed observed)
    (kept : ∀ call newtcp, phase.newtcp = some (call, newtcp) →
      observed.madeFor[newtcp]? = some call.host) :
    Filed { observed with pool := observed.pool.setCaller thread phase } := by
  refine { made := filed.made, pooled := filed.pooled, counted := filed.counted, held := ?_ }
  exact setCaller_held filed.held kept

theorem Filed.setSocks {socks : List ClientSock} (filed : Filed observed)
    (sameLength : socks.length = observed.pool.socks.length) :
    Filed { observed with pool := { observed.pool with socks } } :=
  { filed with made := filed.made.trans sameLength.symm }

theorem Filed.connect {sock : ClientSock} {host : DestHost} (filed : Filed observed) :
    Filed { pool := { observed.pool with socks := observed.pool.socks ++ [sock] },
            madeFor := observed.madeFor ++ [host] } := by
  have kept {ref : Nat} {known : DestHost} (there : observed.madeFor[ref]? = some known) :
      (observed.madeFor ++ [host])[ref]? = some known :=
    (List.getElem?_append_left (List.getElem?_eq_some_iff.mp there).1).trans there
  refine ⟨?_, ?_, ?_, filed.counted⟩
  · simp [filed.made]
  · exact fun thread call newtcp holds => kept (filed.held thread call newtcp holds)
  · exact fun other conns ref found member => kept (filed.pooled other conns ref found member)

theorem Filed.storeNew {host : DestHost} {newtcp : Nat} (filed : Filed observed)
    (own : observed.madeFor[newtcp]? = some host) :
    Filed { observed with pool := observed.pool.storeNew host newtcp } := by
  obtain ⟨sameSocks, sameCallers⟩ := storeNew_frame observed.pool host newtcp
  refine ⟨sameSocks ▸ filed.made, sameCallers ▸ filed.held, ?_, ?_⟩
  · intro other conns ref found member
    rcases storeNew_member found member with ⟨rfl, rfl⟩ | ⟨before, known, older⟩
    · exact own
    · exact filed.pooled other before ref known older
  · intro other conns found
    unfold TcpClientPool.storeNew at found ⊢
    by_cases same : other = host
    · subst same
      split
      next before known => exact filed.counted other before known
      next => exact ⟨0, Function.update_self ..⟩
    · split at found <;> simp only [Function.update_of_ne same] at found ⊢ <;>
        exact filed.counted other conns found

theorem Filed.move {event : Event} {next : TcpClientPool} (filed : Filed observed)
    (move : Move observed.pool event next) :
    Filed { pool := next, madeFor := observed.madeFor ++ observed.pool.madeHere event } := by
  cases move with
  | counts thread host num returned idle =>
    have makes : observed.pool.madeHere (.createTcpSock thread host num) = [] := rfl
    rw [makes, List.append_nil]
    exact filed.setCaller fun _ _ holds => by cases holds
  | turns _ thread phase socks makes sameLength less holds =>
    rw [makes, List.append_nil]
    have turned := @Filed.setCaller _ thread phase filed fun call newtcp held =>
      filed.held thread call newtcp (holds _ held)
    exact turned.setSocks sameLength
  | connects thread call fd connecting needed =>
    simp only [madeHere, connecting]
    have made := @Filed.connect _ (.connected fd call.host) call.host filed
    refine made.setCaller ?_
    intro other newtcp holds
    cases holds
    rw [← filed.made]
    exact List.getElem?_concat_length
  | stores thread call newtcp storing =>
    have makes : observed.pool.madeHere (.store thread) = [] := rfl
    rw [makes, List.append_nil]
    have own := filed.held thread call newtcp (by rw [storing]; rfl)
    exact (filed.storeNew own).setCaller fun _ _ holds => by cases holds
  | shrinks _ _ makes shrinks =>
    rw [makes, List.append_nil]
    exact filed.shrinks shrinks

theorem Filed.step {event : PoolEvent} (filed : Filed observed)
    (taken : observed.step event = some following) : Filed following := by
  cases event with
  | own event =>
    simp only [Observed.step, Option.map_eq_some_iff] at taken
    obtain ⟨next, moved, rfl⟩ := taken
    exact filed.move (step_move moved)
  | removeTcpSock spTcp =>
    cases taken
    exact filed.shrinks (removeTcpSock_shrinks observed.pool spTcp)

-- The remainder is below the number of connections, whatever the counter is.
theorem Filed.givesOwn (filed : Filed observed) : observed.GivesOwn := by
  intro host conns found
  refine ⟨filed.counted host conns found, ?_⟩
  intro nonempty
  obtain ⟨first, others, rfl⟩ := List.exists_cons_of_ne_nil nonempty
  let index := (((observed.pool.selectCounter host).getD 0).toInt % 2 ^ 64).toNat %
    (first :: others).length
  have inside : index < (first :: others).length := Nat.mod_lt _ (Nat.succ_pos _)
  have got : (observed.pool.getTcpSockByDestHost host).1 = (first :: others)[index]? := by
    simp only [getTcpSockByDestHost, found]
    rfl
  rw [List.getElem?_eq_getElem inside] at got
  have member := List.getElem_mem inside
  exact ⟨_, got, member, filed.pooled host _ _ found member⟩

end Filing

section Room

variable {num : Int}

structure Roomy (num : Int) (pool : TcpClientPool) : Prop where
  room : ∀ host thread, 0 < pool.pending thread host →
    pool.filed host + pool.pending thread host ≤ num
  alone : ∀ host thread other, thread ≠ other → pool.pending thread host = 0 ∨
    pool.pending other host = 0
  sized : ∀ host conns, pool.tcpclientPool host = some conns → (conns.length : Int) ≤ num

variable {pool next : TcpClientPool}

theorem roomy_initial (num : Int) : Roomy num initial := by
  constructor <;> simp [initial, pending, CreatePhase.pending]

theorem pending_setCaller (thread other : Nat) (phase : CreatePhase) (host : DestHost) :
    (pool.setCaller thread phase).pending other host =
      if other = thread then phase.pending host else pool.pending other host := by
  unfold pending setCaller
  split_ifs with same
  · simp only [same, Function.update_self]
  · simp only [Function.update_of_ne same]

theorem Roomy.alone_mono (roomy : Roomy num pool)
    (less : ∀ thread host, next.pending thread host ≤ pool.pending thread host) :
    ∀ host thread other, thread ≠ other → next.pending thread host = 0 ∨
      next.pending other host = 0 := by
  intro host thread other different
  have first := less thread host
  have second := less other host
  have firstKept := pending_nonneg next thread host
  have secondKept := pending_nonneg next other host
  rcases roomy.alone host thread other different with none | none
  · exact .inl (by omega)
  · exact .inr (by omega)

theorem Roomy.mono (roomy : Roomy num pool)
    (fewer : ∀ host conns, next.tcpclientPool host = some conns →
      ∃ before, pool.tcpclientPool host = some before ∧ conns.length ≤ before.length)
    (less : ∀ thread host, next.pending thread host ≤ pool.pending thread host) :
    Roomy num next := by
  have filedLess (host : DestHost) : next.filed host ≤ pool.filed host := by
    unfold filed
    cases found : next.tcpclientPool host with
    | none => exact Nat.zero_le _
    | some conns =>
      obtain ⟨before, there, shorter⟩ := fewer host conns found
      rwa [there]
  constructor
  case room =>
    intro host thread some
    have before := roomy.room host thread (by have := less thread host; omega)
    have := less thread host
    have := filedLess host
    omega
  case alone => exact roomy.alone_mono less
  case sized =>
    intro host conns found
    obtain ⟨before, there, shorter⟩ := fewer host conns found
    have := roomy.sized host before there
    omega

theorem Roomy.turns {thread : Nat} {phase : CreatePhase} {socks : List ClientSock}
    (roomy : Roomy num pool)
    (less : ∀ host, phase.pending host ≤ pool.pending thread host) :
    Roomy num { pool.setCaller thread phase with socks } := by
  refine roomy.mono (fun host conns found => ⟨conns, found, le_refl _⟩) ?_
  intro other host
  refine le_of_eq_of_le (pending_setCaller thread other phase host) ?_
  split_ifs with same
  · exact same ▸ less host
  · exact le_refl _

theorem Roomy.counts {thread : Nat} {host : DestHost} (roomy : Roomy num pool)
    (alone : num ≤ pool.filed host ∨ ∀ thread, pool.pending thread host = 0) :
    Roomy num
      (pool.setCaller thread (.connecting { host, realneedNum := num - pool.filed host })) := by
  have starts (other : DestHost)
      (some : 0 < (CreatePhase.connecting ⟨host, num - pool.filed host⟩).pending other) :
      other = host ∧ (∀ thread, pool.pending thread host = 0) ∧
        (CreatePhase.connecting ⟨host, num - pool.filed host⟩).pending other =
          num - pool.filed host := by
    simp only [CreatePhase.pending] at some ⊢
    split_ifs at some ⊢ with same
    · refine ⟨same.symm, alone.resolve_left (by omega), by omega⟩
    · omega
  have kept := pending_nonneg
    (pool.setCaller thread (.connecting { host, realneedNum := num - pool.filed host }))
  constructor
  case room =>
    intro other caller some
    rw [pending_setCaller] at some ⊢
    split_ifs at some ⊢ with same
    · obtain ⟨rfl, _, exact⟩ := starts other some
      rw [exact]
      change (pool.filed other : Int) + _ ≤ num
      omega
    · exact roomy.room other caller some
  case alone =>
    intro other first second different
    have firstKept := kept first other
    have secondKept := kept second other
    rw [pending_setCaller] at firstKept secondKept
    rw [pending_setCaller, pending_setCaller]
    split_ifs at firstKept secondKept ⊢ with one two
    · exact absurd (one.trans two.symm) different
    · by_cases some : 0 < (CreatePhase.connecting ⟨host, num - pool.filed host⟩).pending other
      · obtain ⟨rfl, others, _⟩ := starts other some
        exact .inr (others second)
      · exact .inl (by omega)
    · by_cases some : 0 < (CreatePhase.connecting ⟨host, num - pool.filed host⟩).pending other
      · obtain ⟨rfl, others, _⟩ := starts other some
        exact .inl (others first)
      · exact .inr (by omega)
    · exact roomy.alone other first second different
  case sized => exact roomy.sized

theorem storeNew_other {host other : DestHost} {newtcp : Nat} (different : other ≠ host) :
    (pool.storeNew host newtcp).tcpclientPool other = pool.tcpclientPool other := by
  unfold storeNew
  split <;> exact Function.update_of_ne different ..

theorem storeNew_own {host : DestHost} {newtcp : Nat} :
    ∃ conns, (pool.storeNew host newtcp).tcpclientPool host = some conns ∧
      conns.length = pool.filed host + 1 := by
  unfold storeNew filed
  split
  next before known => exact ⟨_, Function.update_self .., by simp [known]⟩
  next missing => exact ⟨_, Function.update_self .., by simp [missing]⟩

theorem filed_found {host : DestHost} {conns : List Nat}
    (found : pool.tcpclientPool host = some conns) : pool.filed host = conns.length := by
  rw [filed, found]
  rfl

theorem Roomy.stores {thread : Nat} {call : CreateCall} {newtcp : Nat} (roomy : Roomy num pool)
    (storing : pool.callers thread = .storing call newtcp) :
    Roomy num ((pool.storeNew call.host newtcp).setCaller thread (.connecting call)) := by
  have before : pool.pending thread call.host = max call.realneedNum 0 + 1 := by
    simp [pending, storing, CreatePhase.pending]
  have counted := roomy.room call.host thread (by rw [before]; omega)
  have others (caller : Nat) (different : caller ≠ thread) : pool.pending caller call.host = 0 := by
    rcases roomy.alone call.host caller thread different with none | none
    · exact none
    · rw [before] at none
      omega
  have sameCallers := (storeNew_frame pool call.host newtcp).2
  obtain ⟨stored, found, longer⟩ := @storeNew_own pool call.host newtcp
  let following := (pool.storeNew call.host newtcp).setCaller thread (.connecting call)
  have after (caller : Nat) (host : DestHost) : following.pending caller host =
      if caller = thread then (CreatePhase.connecting call).pending host
      else pool.pending caller host := by
    rw [pending_setCaller, pending, sameCallers, pending]
  have less (caller : Nat) (host : DestHost) :
      following.pending caller host ≤ pool.pending caller host := by
    rw [after]
    split_ifs with same
    · subst same
      rw [pending, storing]
      simp only [CreatePhase.pending]
      split_ifs <;> omega
    · exact le_refl _
  constructor
  case room =>
    intro host caller some
    have older := less caller host
    by_cases own : host = call.host
    · subst own
      have filedNow : following.filed call.host = pool.filed call.host + 1 :=
        (filed_found found).trans longer
      have turned := after caller call.host
      change 0 < following.pending caller call.host at some
      change (following.filed call.host : Int) + following.pending caller call.host ≤ num
      split_ifs at turned with same
      · simp only [CreatePhase.pending, if_true] at turned
        omega
      · have none := others caller same
        omega
    · have filedNow : following.filed host = pool.filed host :=
        congrArg (fun found => (Option.getD found []).length) (storeNew_other own)
      have kept := roomy.room host caller (Int.lt_of_lt_of_le some older)
      change (following.filed host : Int) + following.pending caller host ≤ num
      omega
  case alone => exact roomy.alone_mono less
  case sized =>
    intro host conns there
    by_cases own : host = call.host
    · subst own
      obtain rfl := Option.some.inj (found.symm.trans there)
      omega
    · exact roomy.sized host conns ((storeNew_other own).symm.trans there)

theorem Roomy.shrinks (roomy : Roomy num pool) (shrinks : Shrinks pool next) :
    Roomy num next := by
  refine roomy.mono ?_ fun thread host => by rw [pending, shrinks.callers, pending]
  intro host conns found
  obtain ⟨before, there, sub⟩ := shrinks.fewer host conns found
  exact ⟨before, there, sub.length_le⟩

theorem Roomy.step {observed following : Observed} {event : PoolEvent}
    (roomy : Roomy num observed.pool) (asked : Observed.sameNum num event)
    (alone : observed.countsAlone event) (taken : observed.step event = some following) :
    Roomy num following.pool := by
  cases event with
  | removeTcpSock spTcp =>
    cases taken
    exact roomy.shrinks (removeTcpSock_shrinks observed.pool spTcp)
  | own event =>
    simp only [Observed.step, Option.map_eq_some_iff] at taken
    obtain ⟨next, moved, rfl⟩ := taken
    cases step_move moved with
    | counts thread host wanted returned idle =>
      obtain rfl : wanted = num := asked
      exact roomy.counts alone
    | turns _ thread phase socks makes sameLength less holds => exact roomy.turns less
    | connects thread call fd connecting needed =>
      refine roomy.turns fun host => ?_
      rw [pending, connecting]
      simp only [CreatePhase.pending]
      split_ifs <;> omega
    | stores thread call newtcp storing => exact roomy.stores storing
    | shrinks _ _ makes shrinks => exact roomy.shrinks shrinks

end Room

theorem pool_keeps_size (num : Int) (observed : Observed)
    (reached : Transition.ReachableWhen Observed.step (fun _ event => Observed.sameNum num event)
      .initial observed) :
    observed.GivesOwn ∧
      (Transition.ReachableWhen Observed.step
        (fun state event => Observed.sameNum num event ∧ state.countsAlone event) .initial observed →
          observed.KeepsSize num) := by
  constructor
  · exact (reached.invariant Filed filed_initial fun _ _ _ filed _ taken =>
      filed.step taken).givesOwn
  · intro alone
    have roomy := alone.invariant (fun state => Roomy num state.pool) (roomy_initial num)
      fun _ _ _ roomy meets taken => roomy.step meets.1 meets.2 taken
    exact roomy.sized

theorem pool_keeps_size_one : ∃ observed : Observed, observed.pool.filed someHost = 1 ∧
    observed.GivesOwn ∧ observed.KeepsSize 1 := by
  let ok (state : Observed) (event : PoolEvent) : Prop :=
    Observed.sameNum 1 event ∧ state.countsAlone event
  have empty : Transition.ReachableWhen Observed.step ok .initial .initial := .start
  have counted := empty.next (PoolEvent.own (.createTcpSock 0 someHost 1)) ⟨rfl, .inr fun _ => rfl⟩ rfl
  have connected := counted.next (PoolEvent.own (.connect 0 (some 7))) ⟨trivial, trivial⟩ rfl
  have added := connected.next (PoolEvent.own (.addTcpSockToLoop 0 true)) ⟨trivial, trivial⟩ rfl
  have posted := added.next (PoolEvent.own (.postcb 0 true)) ⟨trivial, trivial⟩ rfl
  have stored := posted.next (PoolEvent.own (.store 0)) ⟨trivial, trivial⟩ rfl
  have keeps := pool_keeps_size 1 _ (stored.weaken fun _ _ both => both.1)
  exact ⟨_, rfl, keeps.1, keeps.2 stored⟩

-- Two threads find the pool empty, and each makes the one connection it was asked for.
def countedTwice : List PoolEvent :=
  [.own (.createTcpSock 0 someHost 1), .own (.createTcpSock 1 someHost 1),
    .own (.connect 0 (some 7)), .own (.connect 1 (some 8)), .own (.addTcpSockToLoop 0 true),
    .own (.addTcpSockToLoop 1 true), .own (.postcb 0 true), .own (.postcb 1 true),
    .own (.store 0), .own (.store 1)]

theorem size_exceeded : ¬ ∀ num observed, Transition.ReachableWhen Observed.step
    (fun _ event => Observed.sameNum num event) .initial observed → observed.KeepsSize num := by
  intro keeps
  obtain ⟨observed, ran, filed⟩ : ∃ observed,
      Transition.run Observed.step .initial countedTwice = some observed ∧
        observed.pool.tcpclientPool someHost = some [0, 1] := ⟨_, rfl, rfl⟩
  have asked : ∀ event ∈ countedTwice, Observed.sameNum 1 event := by
    simp [countedTwice, Observed.sameNum]
  have two := keeps 1 observed (.ofEvents .start countedTwice asked ran) someHost _ filed
  exact absurd two (by decide)

end TcpClientPool

end MessageBus.Net
