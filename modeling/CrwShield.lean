import CrwShield.Antibot.BlockScoring
import CrwShield.Antibot.Catalogue
import CrwShield.Antibot.CookieJournal
import CrwShield.Antibot.CookieLifetime
import CrwShield.Antibot.CookieLookup
import CrwShield.Antibot.HeaderOrder
import CrwShield.Antibot.PageDetectors
import CrwShield.Antibot.StealthHeaders
import CrwShield.Antibot.TokenEvidence
import CrwShield.Antibot.TokenScan
import CrwShield.Antibot.UserAgents
import CrwShield.Base.AssocMap
import CrwShield.Base.Bufio
import CrwShield.Base.Bytes
import CrwShield.Base.Collect
import CrwShield.Base.Digits
import CrwShield.Base.Durability
import CrwShield.Base.Exits
import CrwShield.Base.HtmlReading
import CrwShield.Base.HtmlTokens
import CrwShield.Base.Interleaving
import CrwShield.Base.Journal
import CrwShield.Base.JsString
import CrwShield.Base.JsonText
import CrwShield.Base.Markup
import CrwShield.Base.Refinement
import CrwShield.Base.Regex
import CrwShield.Base.Selection
import CrwShield.Base.Toml
import CrwShield.Base.UrlText
import CrwShield.Base.Utf8
import CrwShield.Base.Xml
import CrwShield.Crawl.BreadthFirst
import CrwShield.Crawl.Discovery
import CrwShield.Crawl.Globs
import CrwShield.Extract.Html
import CrwShield.Extract.Phases
import CrwShield.Extract.Pruning
import CrwShield.Extract.ReadBack
import CrwShield.Extract.Router
import CrwShield.Extract.TagFilter
import CrwShield.Extract.TailCut
import CrwShield.Extract.Unwanted
import CrwShield.Fetch.Allowlist
import CrwShield.Fetch.BrowserSlot
import CrwShield.Fetch.CdpPages
import CrwShield.Fetch.ConcurrentRotation
import CrwShield.Fetch.CookieIsolation
import CrwShield.Fetch.CookieScript
import CrwShield.Fetch.FailedRotation
import CrwShield.Fetch.Humanise
import CrwShield.Fetch.LadderCalls
import CrwShield.Fetch.NextStep
import CrwShield.Fetch.OutgoingHeaders
import CrwShield.Fetch.RotationBudget
import CrwShield.Fetch.RotationIndependence
import CrwShield.Fetch.RoutingAdvice
import CrwShield.Fetch.Solutions
import CrwShield.Fetch.SolverCookies
import CrwShield.Map.Discover
import CrwShield.Map.Sitemap
import CrwShield.Map.SitemapBases
import CrwShield.Map.SitemapIndexes
import CrwShield.Map.SitemapLocs
import CrwShield.Proxy.CertificateAuthority
import CrwShield.Proxy.Fingerprint
import CrwShield.Proxy.Framing
import CrwShield.Proxy.Message
import CrwShield.Proxy.Request
import CrwShield.Proxy.Response
import CrwShield.Proxy.Segmentation
import CrwShield.Search.Results
import CrwShield.Server.CleanPages
import CrwShield.Server.CookieDurability
import CrwShield.Server.CookieFile
import CrwShield.Server.CookiePersistence
import CrwShield.Server.CookieSharing
import CrwShield.Server.CookieText
import CrwShield.Server.CrawlJobs
import CrwShield.Server.CrawlRegistry
import CrwShield.Server.CrawlService
import CrwShield.Server.Desk
import CrwShield.Server.FailedSolve
import CrwShield.Server.HitlDesk
import CrwShield.Server.HitlHost
import CrwShield.Server.HitlOrder
import CrwShield.Server.HitlQueue
import CrwShield.Server.HitlSolve
import CrwShield.Server.Pipelines
import CrwShield.Server.RateLimit
import CrwShield.Server.SolvePost
import CrwShield.Server.SolveUi
import CrwShield.Server.TornAppend
import CrwShield.Server.Verdicts
