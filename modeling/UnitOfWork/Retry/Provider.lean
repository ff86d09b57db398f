import UnitOfWork.Provider.Registry
import UnitOfWork.Retry.Suspending

/-!
# Retrying against one provider

A provider retry judges failures by the allow list of a registry entry, the provider's own or one that
the caller registered. Its log lines stand inside a span that names the provider.
-/

set_option autoImplicit false

namespace UnitOfWork.Retry

/-- Retry options bound to a provider and an allow list. -/
structure ProviderRetry where
  provider : Provider
  classifier : Classifier
  options : Options

namespace ProviderRetry

/-- Bound to a provider's own allow list. -/
def of (provider : Provider) (options : Options) : ProviderRetry :=
  ⟨provider, provider.classifier, options⟩

/-- Bound to what a registered name leads to. -/
def ofEntry (entry : Provider.Entry) (options : Options) : ProviderRetry :=
  ⟨entry.provider, entry.classifier, options⟩

/-- The span around the log lines of a run. -/
def span (retry : ProviderRetry) : String := s!"provider_retry provider={retry.provider.name}"

variable {m : Type → Type} [Monad m] [Log.Spans m] {ε α : Type} [Faulty ε]

def runBlocking (retry : ProviderRetry) (host : BlockingHost m ε α) : m (Except ε α) :=
  Log.within retry.span (Blocking.run retry.options (.ofClassifier retry.classifier) host)

def runSuspending (retry : ProviderRetry) (host : SuspendingHost m ε α) :
    m (Except (Failure ε) α) :=
  Log.within retry.span (Suspending.run retry.options (.ofClassifier retry.classifier) host)

end ProviderRetry

end UnitOfWork.Retry
