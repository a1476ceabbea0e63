/-!
The environment of a router: the URL on show, the name of the application, the base URL that
the environment may know, and every address pushed so far, oldest first.
-/

namespace Wayfinding

structure Host where
  url : String
  application : String
  cachedBaseUrl : Option String
  history : Array String
  deriving DecidableEq, Repr

namespace Host

def setUrl (host : Host) (url : String) : Host :=
  { host with url := url }

def pushAddress (host : Host) (address : String) : Host :=
  { host with url := address, history := host.history.push address }

def lastAddress? (host : Host) : Option String :=
  host.history.back?

end Host
end Wayfinding
