import Reconciler.Bench.Backend
import Reconciler.Cluster
import Reconciler.Controller
/-!
API servers on the bench: a server that replies by a script, whatever it is asked, and a
controller whose store stands behind such a server.
-/

set_option autoImplicit false

namespace Reconciler

inductive ServerTurn where
  | reply (r : ApiReply)
  | hang
  deriving DecidableEq, Repr

/-- The turns to come, and the requests so far, oldest first. -/
structure ScriptedServer where
  now : Moment
  script : List ServerTurn
  requests : List ApiRequest

namespace ScriptedServer

/-- Where the script ends, so does the connection. -/
def nextTurn (s : ScriptedServer) : ServerTurn :=
  s.script.headD (.reply (.broken "script exhausted"))

def answer (ctx : Context) : (q : ClusterQuery) → ScriptedServer → q.Answer × ScriptedServer
  | .check, s => (ctx.check s.now, s)
  | .exchange r, s =>
    match ctx.check s.now with
    | .error i => (.error i, s)
    | .ok () =>
      let after := { s with script := s.script.tail, requests := s.requests ++ [r] }
      match s.nextTurn with
      | .reply reply => (.ok reply, after)
      | .hang =>
        match ctx.await s.now .endless with
        | (.ok (), t) => (.ok (.broken ""), { after with now := t })
        | (.error i, t) => (.error i, { after with now := t })

variable {k : Kind}

def call (only : Option String) (ctx : Context) (c : StoreCall k) (s : ScriptedServer) :
    c.Answer × ScriptedServer :=
  (Cluster.call only c).run (answer ctx) s

end ScriptedServer

structure ServerStation where
  server : ScriptedServer
  backend : Backend

namespace ServerStation

variable {k : Kind}

def store (ctx : Context) (c : StoreCall k) (s : ServerStation) : c.Answer × ServerStation :=
  let (answer, server) := s.server.call none ctx c
  (answer, { s with server })

def answer (ctx : Context) : (q : Query k) → ServerStation → q.Answer × ServerStation
  | .check, s => (ctx.check s.server.now, s)
  | .call op r, s =>
    let reply := s.backend.call ctx s.server.now op r
    (reply.answer,
      { server := { s.server with now := reply.due.getD s.server.now }, backend := reply.after })
  | .read c, s => s.store ctx c
  | .commit c, s =>
    match ctx.check s.server.now with
    | .error i => (.error i.toError, s)
    | .ok () => s.store ctx c

def reconcile (requeueAfter : Duration) (wall : Instant) (ctx : Context) (k : Kind)
    (key : ObjectKey) (s : ServerStation) : Except Stop Decision × ServerStation :=
  let work : Controller.Work k (Except Stop (Decision × Outcome)) :=
    Controller.reconcile requeueAfter wall key
  let (result, s) := work.run (answer ctx) s
  (result.map (·.1), s)

end ServerStation

end Reconciler
