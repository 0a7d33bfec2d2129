import DonationSite.Site
import DonationSite.Text.Upper
import DonationSite.Proofs.Donation.Selection
import DonationSite.Proofs.Donation.TypedMore
import DonationSite.Proofs.Page.DonationPage
import DonationSite.Proofs.Page.OneSlot
import DonationSite.Proofs.Page.StaleAnswers
import DonationSite.Proofs.Ui.Confirmation
import DonationSite.Proofs.Ui.FailedCopy
import DonationSite.Proofs.Ui.PendingReset
import DonationSite.Proofs.Vat.Answer.Exact
import DonationSite.Proofs.Vat.Conservation
import DonationSite.Proofs.Vat.FormBody
import DonationSite.Proofs.Binary64.Accepted
import DonationSite.Proofs.Donation.ExactAmount
import DonationSite.Proofs.Binary64.ReadBack
import DonationSite.Proofs.Binary64.Written
import DonationSite.Proofs.Donation.Displayed
import DonationSite.Proofs.Page.ShownMinimum
import DonationSite.Proofs.Cookie
import DonationSite.Proofs.Csrf
import DonationSite.Proofs.Page.OneToken
import DonationSite.Proofs.Page.TypedText
import DonationSite.Proofs.Billing.Form
import DonationSite.Proofs.CookieJar
import DonationSite.Proofs.Billing.LastWriter
import DonationSite.Proofs.Page.CountryChoice
import DonationSite.Proofs.Text.Upper
import DonationSite.Proofs.Vat.CodeSpelling
import DonationSite.Proofs.Donation.Offers
import DonationSite.Proofs.Donation.Reordering
import DonationSite.Proofs.Page.PricingTabs
import DonationSite.Proofs.Json.Agree
import DonationSite.Proofs.Json.Location
import DonationSite.Proofs.Json.Settled.Basic
import DonationSite.Proofs.Json.Settled.Number
import DonationSite.Proofs.Json.Settled.Scan
import DonationSite.Proofs.Json.Settled.Skip
import DonationSite.Proofs.Vat.Answer.Failure
