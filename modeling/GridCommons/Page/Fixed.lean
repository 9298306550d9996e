import GridCommons.Page.Item

/-!
Contract: the pages that are the same for everyone.

Owns: the page for what is not found, the page about the team, and the page of
goals.
-/

namespace GridCommons.Page

open GridCommons.Json (Value)

def notFound : Page where
  name := "404.html"
  items :=
    say "404" ++ say "Страница, которую вы ищете, не найдена." ++ linkTo "/" "Вернуться на главную"

/-- Members of the team: initials, name and work. -/
def teamMembers : List (String × String × String) :=
  [("КА", "Аванян Карен", "Team Lead, разработка приложения"),
    ("АД", "Дубинский Александр", "Разработка приложения, управляющий web-ом"),
    ("ДЯ", "Янковская Дарья", "Дизайнер"),
    ("НБ", "Богатырь Никита", "Разработчик приложения"),
    ("ПС", "Святский Павел", "Разработчик приложения"),
    ("ГД", "Долгих Георгий", "Разработчик сайта"),
    ("КГ", "Карасёв Глеб", "Разработчик сайта")]

def aboutData : List (String × Value) :=
  [("company_name", .text "Моя Компания"), ("foundation_year", .text "2010"),
    ("team_size", .text "50"),
    ("team_members", .arr
      [.object [("name", .text "Иван Иванов"), ("position", .text "Основатель и CEO"),
          ("bio", .text "Иван основал компанию в 2010 с видением создания инновационных решений для бизнеса."),
          ("image", .text "team-member1.jpg")],
        .object [("name", .text "Алексей Петров"), ("position", .text "Технический директор"),
          ("bio", .text "Алексей присоединился к команде в 2012 и возглавляет техническое развитие компании."),
          ("image", .text "team-member2.jpg")]]),
    ("contact_info", .object
      [("address", .text "ул. Примерная, 123, Москва"), ("phone", .text "+7 (123) 456-78-90"),
        ("email", .text "info@mycompany.com"), ("working_hours", .text "Пн-Пт: 9:00-18:00")])]

def about : Page where
  name := "about.html"
  data := aboutData
  items := teamMembers.flatMap fun (initials, name, work) => say initials ++ say name ++ say work

def goal (title description icon : String) : Value :=
  .object [("title", .text title), ("description", .text description), ("icon", .text icon)]

def measure (title aim : String) (progress : Nat) : Value :=
  .object [("title", .text title), ("target", .text aim), ("progress", .nat progress)]

def goalsData : List (String × Value) :=
  [("mission",
      .text "Мы стремимся создавать инновационные решения, которые делают бизнес эффективнее."),
    ("goals", .arr
      [goal "Глобальное присутствие"
          "Расширение нашей деятельности на 5 новых рынков к 2025 году." "🌍",
        goal "Инновации" "Разработка 10 новых технологических решений ежегодно." "💡",
        goal "Развитие команды" "Инвестиции в профессиональный рост наших сотрудников." "👥",
        goal "Устойчивое развитие" "Достижение углеродной нейтральности к 2030 году." "♻️"]),
    ("metrics", .arr
      [measure "Удовлетворенность клиентов" "95% положительных отзывов к концу 2025 года" 87,
        measure "Рост компании" "Увеличение выручки на 30% ежегодно" 25,
        measure "Экологические инициативы" "Снижение углеродного следа на 40% к 2026 году" 15])]

def goalsTexts : List String :=
  ["AlgEdu — это революционный образовательный проект, представляющий уникальный интерпретатор алгоритмического языка, разработанного нашей командой с нуля. Наш язык сочетает в себе мощь современных технологий и доступность для начинающих.",
    "Благодаря интуитивно понятному синтаксису и интерактивной визуализации, AlgEdu делает первый шаг в программировании увлекательным путешествием, а не сложным испытанием.",
    "Ключевые особенности", "1", "Специально для обучения",
    "Язык создавался с учетом всех сложностей, с которыми сталкиваются новички. Чистый синтаксис без лишней сложности позволяет сосредоточиться на основах алгоритмического мышления. Мы убрали все лишнее, оставив только самое важное.",
    "2", "Визуальное исполнение",
    "Каждая операция сопровождается подробной визуализацией в реальном времени. Вы буквально видите, как данные преобразуются, как работают циклы и условия. Это превращает абстрактные концепции в наглядные, понятные примеры.",
    "Для кого создан AlgEdu?", "Ш", "Школьники",
    "Идеальный инструмент для первого знакомства с программированием. AlgEdu помогает понять основы без сложного синтаксиса, развивает алгоритмическое мышление и логику.",
    "П", "Преподаватели",
    "Готовое решение для наглядного объяснения алгоритмов. Встроенные примеры и визуализация помогают сделать уроки более интересными и понятными для студентов.",
    "Попробовать AlgEdu"]

def goals : Page where
  name := "goals.html"
  data := goalsData
  items := goalsTexts.flatMap say

end GridCommons.Page
