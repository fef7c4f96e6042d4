import XMiner.Donate.Nested
import XMiner.Donate.Params

namespace XMiner
namespace Donate

/-!
# The proxy's login

The donation strategy hears two logins.  The nested strategy's `onLogin(strategy, client, doc,
params)` only runs `setParams`.  The proxy's `onLogin(client, doc, params)` first adds the url of
a donation pool: with TLS compiled in, a proxy whose operator connection has TLS (`m_tls`) asks
for `stratum+ssl://` and the first pool's url, printed by `snprintf` into `char buf[40]`, and
any other proxy for the second pool's url; without TLS, for the first pool's url.

The constructor fixes the pools: the TLS pool `pool-global.tari.snipanet.com:9000` first, then the
plaintext pool on the same host at 3333, then the backup.  `snprintf` keeps 39 characters, so the
TLS url is whole only when the pool's url has at most 25; the TLS pool's has 34, and every TLS
login asks for `stratum+ssl://pool-global.tari.snipanet`, without the host's `.com` and the port.
-/

/-- `kDonateHost`. -/
def kDonateHost : String :=
  "pool-global.tari.snipanet.com"

/-- `kDonateHostBackup`. -/
def kDonateHostBackup : String :=
  "xtm-rx.kryptex.network"

/-- `kDonateHostTls`. -/
def kDonateHostTls : String :=
  "pool-global.tari.snipanet.com"

/-- What a donation pool's url is made of. -/
structure Pool where
  host : String
  port : Nat
  deriving DecidableEq, Repr, Inhabited

/-- The characters of `Pool::url()`.  `Url`, which is not under src/, prints `host:port` into a
buffer of the host's length plus 8, which holds every 16-bit port. -/
def Pool.url (pool : Pool) : List Char :=
  pool.host.toList ++ ':' :: (toString pool.port).toList

/-- `m_pools` as the constructor fills it, with TLS compiled in or not. -/
def donationPools (featureTls : Bool) : List Pool :=
  (if featureTls then [⟨kDonateHostTls, 9000⟩] else []) ++
    [⟨kDonateHost, 3333⟩, ⟨kDonateHostBackup, 7038⟩]

/-- The nested strategy is built over as many pools as the constructor fills. -/
theorem length_donationPools (featureTls : Bool) :
    (donationPools featureTls).length = donatePools featureTls := by
  cases featureTls <;> rfl

/-- `snprintf(buf, sizeof(buf), ...)` into `char buf[40]`: the first 39 characters, then the
terminating zero. -/
def snprintf40 (text : List Char) : List Char :=
  text.take 39

/-- The url `onLogin(client, doc, params)` adds, from `m_pools` and `m_tls`. -/
def loginUrl (featureTls : Bool) (pools : List Pool) (tls : Bool) : String :=
  if featureTls then
    if tls then String.mk (snprintf40 ("stratum+ssl://".toList ++ (pools.getD 0 default).url))
    else String.mk (pools.getD 1 default).url
  else String.mk (pools.getD 0 default).url

section Login

variable {Algorithm : Type} [DecidableEq Algorithm]

/-- `onLogin(client, doc, params)`, which only the proxy calls: the url, then `setParams`.  The
nested strategy's `onLogin(strategy, client, doc, params)` is `setParams` alone. -/
def onLogin (featureTls : Bool) (s : DonateStrategy) (name : Algorithm → String)
    (algorithms : List Algorithm) (members : JobMembers Algorithm)
    (params : List (String × Value)) : List (String × Value) :=
  setParams name algorithms members
    (params ++ [("url", .string (loginUrl featureTls (donationPools featureTls) s.tls))])

/-- The TLS url is whole exactly when the first pool's url leaves room in `buf[40]`. -/
theorem tls_url_whole_iff (first : Pool) (rest : List Pool) :
    loginUrl true (first :: rest) true = String.mk ("stratum+ssl://".toList ++ first.url) ↔
      first.url.length ≤ 25 := by
  have kept : snprintf40 ("stratum+ssl://".toList ++ first.url) =
      "stratum+ssl://".toList ++ first.url.take 25 :=
    @List.take_append _ "stratum+ssl://".toList first.url 25
  simp only [loginUrl, if_true, List.getD_cons_zero, kept, String.ext_iff, List.append_right_inj,
    List.take_eq_self_iff]

/-- The TLS pool the constructor puts first has the 34-character url
`pool-global.tari.snipanet.com:9000`, so a TLS login asks for a url without the host's `.com`
and the port. -/
example : loginUrl true (donationPools true) true = "stratum+ssl://pool-global.tari.snipanet" := by
  decide

end Login

end Donate
end XMiner
