import CodePlayground.Sample.Loads

/-!
A fetcher at work: it answers every request at once, from the files or the web that it is given, and
keeps a list of the requests that servers on the web have taken.
-/

namespace CodePlayground

structure Supply where
  fetcher : Fetcher
  files : FileTree
  web : Web
  requests : List String

namespace Supply

def new (fetcher : Fetcher) (files : FileTree) (web : Web) : Supply :=
  ⟨fetcher, files, web, []⟩

def fetch (supply : Supply) (path : String) : Supply × Except FetchError String :=
  let (requests, result) := supply.fetcher.fetch supply.files supply.web path
  ({ supply with requests := supply.requests ++ requests }, result)

instance : TextService Supply where
  ask supply _ path :=
    let (supply, result) := supply.fetch path
    (supply, some result)

end Supply

end CodePlayground
