import SafetyRecorder.Auth.Integrity
import SafetyRecorder.HttpApi.Accounts
import SafetyRecorder.Lib.Alone

namespace SafetyRecorder.Auth

open Process Runs

/-!
# Auth — the server on the account tables

* `authStep` — one call of one request; a run is an interleaving of the calls of any
  number of requests;
* `bootAuth` — the server on a database that holds accounts and nothing else, as it is
  after the migrations;
* `sound_run` — the tables are sound in every reachable state.
-/

/-- The server: the world and the requests in progress. -/
abbrev AuthServer := Sys World Call Answer Response

/-- One step of the server. -/
abbrev authStep (env : Env) (api : API) : AuthServer → Label Request Choice → Option AuthServer :=
  Sys.step (main api) (exec env)

/-- The world before the first request. -/
def bootWorld (accounts : List Account) : World := { db := { accounts := accounts } }

/-- The server before the first request. -/
def bootAuth (accounts : List Account) : AuthServer := Sys.start (bootWorld accounts)

variable {env : Env} {api : API}

theorem sound_exec {w w' : World} {c : Call} {ch : Choice} {a : Answer c} (hw : Sound w.db)
    (h : exec env w c ch = some (a, w')) : Sound w'.db := by
  rcases exec_cases h with ⟨t, o, r, db', -, hrun, rfl⟩ | ⟨hdb, -, -⟩
  · exact sound_effect hw (effect_of_run hrun)
  · exact hdb ▸ hw

/-- **Integrity.** The tables are sound in every state of every run. -/
theorem sound_run {accounts : List Account} (hids : (accounts.map (·.id)).Nodup)
    {ls : List (Label Request Choice)} {s : AuthServer}
    (hrun : run (authStep env api) (bootAuth accounts) ls = some s) : Sound s.shared.db :=
  invariant_of_step (I := fun s : AuthServer => Sound s.shared.db)
    (fun _ _ _ hs h => Sys.shared_step (I := fun w : World => Sound w.db)
      (fun _ _ _ _ _ hw hexec => sound_exec hw hexec) hs h)
    (sound_accounts hids) hrun

end SafetyRecorder.Auth
