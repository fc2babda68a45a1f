/-! The version of the playground, which its server and its command line report. -/

namespace CodePlayground

def version : String := "0.1.0"

end CodePlayground
